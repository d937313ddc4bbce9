import TypedHeaders.Proofs.Results

/-!
# What checking constraints leaves of a value

Constraints that a type does not check itself are checked after it. Those that
ask something of a value leave it as it is (`Constraint.eq_of_check`). Those that
reshape a text make a text of what counts as one, members of enumerations
included (`Constraint.checkAll_of_reshaping`): the text is reshaped by all of
them, one after the other (`reshapedBy`).
-/

namespace TypedHeaders

/-- The text as reshaping leaves it. -/
def Reshaping.apply (r : Reshaping) (s : String) : String :=
  let s := s.toList
  let s := if r.strip = some true then Text.trim Text.whiteSpace s else s
  let s := if r.toUpper = some true then Text.upperCase s else s
  let s := if r.toLower = some true then Text.lowerCase s else s
  String.ofList s

/-- The text as one constraint leaves it. -/
def Constraint.reshaped (c : Constraint) (s : String) : String :=
  match c with
  | .reshape r => r.apply s
  | _ => s

/-- The text as constraints leave it, one after the other. -/
def reshapedBy (cs : List Constraint) (s : String) : String := cs.foldl (fun s c => c.reshaped s) s

namespace Constraint

variable {c : Constraint} {cs : List Constraint} {schema : String} {v w : Value}

/-! ## One constraint -/

theorem eq_of_checkBound {holds : Ordering → Bool} {reason : Bound → Reason} {b : Number}
    (hw : c.checkBound holds reason b v = .ok w) : w = v := by
  rw [checkBound] at hw
  split at hw
  · cases hw
  · split at hw
    · exact (Except.ok.inj hw).symm
    · cases hw

theorem eq_of_checkSize {holds : Nat → Bool} {reason : Nat → Reason}
    (hw : c.checkSize holds reason v = .ok w) : w = v := by
  rw [checkSize] at hw
  split at hw
  · cases hw
  · split at hw
    · exact (Except.ok.inj hw).symm
    · cases hw

theorem eq_of_checkDigits {count : Numeral.Decimal → Nat} {holds : Nat → Bool} {reason : Reason}
    (hw : c.checkDigits count holds reason v = .ok w) : w = v := by
  unfold checkDigits at hw
  split at hw
  · split at hw
    · cases hw
    · split at hw
      · exact (Except.ok.inj hw).symm
      · cases hw
  · cases hw

theorem eq_of_checkFinite (hw : checkFinite v = .ok w) : w = v := by
  rw [checkFinite] at hw
  split at hw
  · cases hw
  · split at hw
    · cases hw
    · exact (Except.ok.inj hw).symm
    · cases hw

theorem eq_of_checkMultiple {m : Number} (hw : checkMultiple m v = .ok w) : w = v := by
  -- However it is found out whether something remains, the value is returned only if not.
  have hreturn (x : Except Rejection Bool)
      (hx : (x >>= fun remains => if remains then throw (.whole (.notMultiple (.shown m)))
        else pure v) = .ok w) : w = v := by
    obtain ⟨remains, -, hx⟩ := bind_eq_ok.1 hx
    cases remains with
    | true => cases hx
    | false => exact (Except.ok.inj hx).symm
  unfold checkMultiple at hw
  dsimp only at hw
  split at hw
  · exact hreturn _ hw
  · exact hreturn _ hw
  · split at hw
    · exact hreturn _ hw
    · exact hreturn _ hw

/-- A constraint that asks something of a value leaves it as it is. -/
theorem eq_of_check (hc : c.isReshaping = false) (hw : c.check schema v = .ok w) : w = v := by
  cases c with
  | gt b | ge b | lt b | le b => exact eq_of_checkBound hw
  | multipleOf m => exact eq_of_checkMultiple hw
  | minLength n | maxLength n => exact eq_of_checkSize hw
  | allowInfNan allowed =>
    cases allowed with
    | true => exact (Except.ok.inj hw).symm
    | false => exact eq_of_checkFinite hw
  | maxDigits n | decimalPlaces n =>
    rw [check] at hw
    exact eq_of_checkDigits hw
  | reshape r => cases hc

/-- Reshaping makes a text of what counts as one. -/
theorem check_reshape {r : Reshaping} (hw : (Constraint.reshape r).check schema v = .ok w) :
    ∃ s, (Scalar.toText v).result = .ok s ∧ w = .text (r.apply s) := by
  rw [check, checkReshaped] at hw
  split at hw
  · cases hw
  · rename_i s hs
    exact ⟨s.value, by rw [hs]; rfl, (Except.ok.inj hw).symm⟩

/-! ## All constraints -/

theorem reshapedBy_cons {s : String} : reshapedBy (c :: cs) s = reshapedBy cs (c.reshaped s) := rfl

theorem reshapedBy_of_none {s : String} (hcs : cs.any isReshaping = false) :
    reshapedBy cs s = s := by
  induction cs with
  | nil => rfl
  | cons c cs ih =>
    rw [List.any_cons, Bool.or_eq_false_iff] at hcs
    rw [reshapedBy_cons]
    cases c with
    | reshape r => cases hcs.1
    | _ => exact ih hcs.2

theorem checkAll_cons :
    checkAll schema (c :: cs) v = .ok w ↔
      ∃ x, c.check schema v = .ok x ∧
        checkAll c.schemaAfter cs x = .ok w := by
  rw [checkAll, bind_eq_ok]

/-- What was done before a check does not count for its result. -/
theorem check_congr_schema {schema' : String} (hw : c.check schema v = .ok w) :
    c.check schema' v = .ok w := by
  cases c with
  | reshape r =>
    rw [check, checkReshaped] at hw ⊢
    split at hw
    · cases hw
    · exact hw
  | _ => exact hw

theorem checkAll_congr_schema {schema' : String} (hw : checkAll schema cs v = .ok w) :
    checkAll schema' cs v = .ok w := by
  cases cs with
  | nil => exact hw
  | cons c cs =>
    obtain ⟨x, hx, hw⟩ := checkAll_cons.1 hw
    exact checkAll_cons.2 ⟨x, check_congr_schema hx, hw⟩

theorem checkAll_append {ds : List Constraint} :
    checkAll schema (cs ++ ds) v = .ok w ↔
      ∃ x, checkAll schema cs v = .ok x ∧ checkAll schema ds x = .ok w := by
  induction cs generalizing schema v with
  | nil => exact ⟨fun hw => ⟨v, rfl, hw⟩, fun ⟨_, hx, hw⟩ => Except.ok.inj hx ▸ hw⟩
  | cons c cs ih =>
    simp only [List.cons_append, checkAll_cons, ih]
    constructor
    · rintro ⟨y, hy, x, hx, hw⟩
      exact ⟨x, ⟨y, hy, hx⟩, checkAll_congr_schema hw⟩
    · rintro ⟨x, ⟨y, hy, hx⟩, hw⟩
      exact ⟨y, hy, x, hx, checkAll_congr_schema hw⟩

/-- Constraints that ask something of a value leave it as it is. -/
theorem eq_of_checkAll (hcs : cs.any isReshaping = false) (hw : checkAll schema cs v = .ok w) :
    w = v := by
  induction cs generalizing schema v with
  | nil => exact (Except.ok.inj hw).symm
  | cons c cs ih =>
    rw [List.any_cons, Bool.or_eq_false_iff] at hcs
    obtain ⟨x, hx, hw⟩ := checkAll_cons.1 hw
    rw [ih hcs.2 hw, eq_of_check hcs.1 hx]

/-- Constraints of which one reshapes make a text of what counts as one, reshaped by all. -/
theorem checkAll_of_reshaping (hcs : cs.any isReshaping = true)
    (hw : checkAll schema cs v = .ok w) :
    ∃ s, (Scalar.toText v).result = .ok s ∧ w = .text (reshapedBy cs s) := by
  induction cs generalizing schema v with
  | nil => cases hcs
  | cons c cs ih =>
    obtain ⟨x, hx, hw⟩ := checkAll_cons.1 hw
    cases c with
    | reshape r =>
      obtain ⟨s, hs, rfl⟩ := check_reshape hx
      refine ⟨s, hs, ?_⟩
      cases hrest : cs.any isReshaping with
      | true =>
        -- The rest reshapes the text that came of the first step.
        obtain ⟨t, ht, rfl⟩ := ih hrest hw
        rw [← Except.ok.inj ht]
        rfl
      | false => rw [eq_of_checkAll hrest hw, reshapedBy_cons, reshapedBy_of_none hrest, reshaped]
    | _ =>
      rw [eq_of_check rfl hx] at hw
      exact ih hcs hw

/-- What counts as no text is left as it is. -/
theorem eq_of_checkAll_of_not_text (hv : ∀ s, (Scalar.toText v).result ≠ .ok s)
    (hw : checkAll schema cs v = .ok w) : w = v := by
  cases hcs : cs.any isReshaping with
  | true =>
    obtain ⟨s, hs, -⟩ := checkAll_of_reshaping hcs hw
    exact absurd hs (hv s)
  | false => exact eq_of_checkAll hcs hw

end Constraint

/-! ## The constraints of a type -/

/-- A conversion within constraints has a result if the conversion to the type has one, within the
    constraints that it checks itself, and if the others hold of it. -/
theorem TypeExpr.within_result_eq_ok {t : TypeExpr} {cs : List Constraint}
    {own : Limits → Converted Value} {w : Value} :
    (t.within cs own).result = .ok w ↔
      ∃ v, (own (.ofConstraints (cs.takeWhile t.checks))).result = .ok v ∧
        Constraint.checkAll t.schema (cs.dropWhile t.checks) v = .ok w := by
  simp [within, List.span_eq_takeWhile_dropWhile]

/-- Without constraints there is only the conversion to the type. -/
theorem TypeExpr.within_nil_result_eq_ok {t : TypeExpr} {own : Limits → Converted Value} {w : Value} :
    (t.within [] own).result = .ok w ↔ (own {}).result = .ok w := by
  rw [within_result_eq_ok]
  exact ⟨fun ⟨v, hv, hw⟩ => Except.ok.inj hw ▸ hv, fun hw => ⟨w, hw, rfl⟩⟩

/-- A type that checks no constraint itself leaves all to be checked after it. -/
theorem TypeExpr.within_result_of_checks_none {t : TypeExpr} {cs : List Constraint}
    {own : Limits → Converted Value} {w : Value} (ht : ∀ c, t.checks c = false) :
    (t.within cs own).result = .ok w ↔
      ∃ v, (own {}).result = .ok v ∧ Constraint.checkAll t.schema cs v = .ok w := by
  have htake : cs.takeWhile t.checks = [] := by
    cases cs with
    | nil => rfl
    | cons c cs => rw [List.takeWhile_cons_of_neg (by simp [ht c])]
  have hdrop : cs.dropWhile t.checks = cs := by
    cases cs with
    | nil => rfl
    | cons c cs => rw [List.dropWhile_cons_of_neg (by simp [ht c])]
  rw [within_result_eq_ok, htake, hdrop]
  rfl

end TypedHeaders
