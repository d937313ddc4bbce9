import TypedHeaders.Proofs.Comparison
import TypedHeaders.Proofs.Declaration
import TypedHeaders.Proofs.Limits
import TypedHeaders.Proofs.Populate

/-!
# Bounds that are kept

A number that is bound keeps to the bounds that are declared for it: its exact
value is above or below that of the bound (`Number.KeepsTo`). Bounds that the type
checks itself are first put into the kind of the number, which may change them
(`Number.counted`): a bound of a float is rounded to a float, and a float that
bounds a decimal counts as the decimal that it is written as. And of several bounds
that say the same the last one counts (`Constraint.standing`).

* `keepsTo_of_convert`: what is converted to a type of numbers keeps to the bounds
  that count;
* `Parameter.keepsBounds_of_bind`: so does what a parameter is bound to, and the
  size of a collection is within its bounds as well;
* `populate_keeps_bounds`: and with it what is written into a feed;
* `populate_misses_bounds`: a bound that does not count may be missed.
-/

namespace TypedHeaders

open Numeral

/-! ## Numbers of 64 bits -/

namespace Numeral.Binary64

theorem isProper_ofUnits (negative : Bool) (num den : Nat) : (ofUnits negative num den).IsProper := by
  rw [ofUnits]
  by_cases hunits : roundUnits num den < unitsLimit
  · rw [if_pos hunits]
    exact .finite hunits
  · rw [if_neg hunits]
    exact .infinite

theorem isProper_ofInt (n : Int) : (ofInt n).IsProper := by
  rw [ofInt]
  apply isProper_ofUnits

theorem isProper_ofDecimal (negative : Bool) (ds : Nat) (e : Int) :
    (ofDecimal negative ds e).IsProper := by
  have hzero : (finite negative 0).IsProper := .finite unitsLimit_pos
  rw [ofDecimal]
  split
  · exact hzero
  · split
    · exact .infinite
    · split
      · exact hzero
      · apply isProper_ofUnits

theorem isProper_parse {s : List Char} {x : Binary64} (hx : parse s = some x) : x.IsProper := by
  rw [parse] at hx
  split at hx
  · obtain rfl := Option.some.inj hx
    exact isProper_ofDecimal _ _ _
  · rw [ofName?] at hx
    dsimp only at hx
    split at hx
    · obtain rfl := Option.some.inj hx
      exact .infinite
    · split at hx
      · obtain rfl := Option.some.inj hx
        exact .nan
      · cases hx

end Numeral.Binary64

/-- If the value counts as a binary number, that is one of 64 bits. -/
def Value.IsProper (v : Value) : Prop := ∀ x, v.number? = some (.float x) → x.IsProper

theorem Number.isProper_toBinary {b : Number} (hb : b.IsProper) : b.toBinary.IsProper := by
  cases b with
  | int n => exact Binary64.isProper_ofInt n
  | float x => exact hb
  | decimal d => exact Binary64.isProper_ofDecimal _ _ _

namespace Scalar

theorem isProper_of_readBinary {s : List Char} {x : Binary64} (hx : readBinary s = .ok x) :
    x.IsProper := by
  have hparse {s : List Char} (hs : parseAscii? s = some x) : x.IsProper := by
    rw [parseAscii?] at hs
    split at hs
    · exact Binary64.isProper_parse hs
    · cases hs
  rw [readBinary] at hx
  split at hx
  · rename_i y hy
    obtain rfl := Except.ok.inj hx
    rcases (Option.orElse_eq_some _ _ _).1 hy with hy | ⟨-, hy⟩
    · exact hparse hy
    · obtain ⟨t, -, ht⟩ := Option.bind_eq_some_iff.1 hy
      exact hparse ht
  · cases hx

theorem isProper_of_binaryOfAtom {a : Atom} {x : Binary64}
    (ha : ∀ y, a.number? = some (.float y) → y.IsProper)
    (hx : (binaryOfAtom a).result = .ok x) : x.IsProper := by
  cases a with
  | absent => cases hx
  | bool b =>
    rw [binaryOfAtom, Converted.ofReason_result_eq_ok] at hx
    exact Except.ok.inj hx ▸ Binary64.isProper_ofInt _
  | text s => exact isProper_of_readBinary (Converted.ofReason_result_eq_ok.1 hx)
  | number n =>
    cases n with
    | int n =>
      simp only [binaryOfAtom] at hx
      by_cases hfinite : (Binary64.ofInt n).isFinite = true
      · rw [if_pos hfinite, Converted.ofReason_result_eq_ok] at hx
        exact Except.ok.inj hx ▸ Binary64.isProper_ofInt n
      · rw [if_neg hfinite] at hx
        cases hx
    | float y => exact ha x (congrArg (some <| Number.float ·) (Except.ok.inj hx))
    | decimal d =>
      rw [binaryOfAtom, Converted.ofReason_result_eq_ok] at hx
      exact Except.ok.inj hx ▸ Binary64.isProper_ofDecimal _ _ _

theorem atMost_result {c : Closeness} {a : Converted Binary64} : (a.atMost c).result = a.result := by
  cases a <;> rfl

/-- A value is converted to a binary number of 64 bits. -/
theorem isProper_of_toBinary {v : Value} {x : Binary64} (hv : v.IsProper)
    (hx : (toBinary v).result = .ok x) : x.IsProper := by
  unfold toBinary at hx
  split at hx
  · exact isProper_of_binaryOfAtom hv hx
  · exact isProper_of_readBinary (Converted.ofReason_result_eq_ok.1 hx)
  · split at hx
    · rename_i a ha
      rw [atMost_result] at hx
      refine isProper_of_binaryOfAtom (fun y hy => hv y ?_) hx
      rw [Value.number?, ha]
      exact hy
    · cases hx

end Scalar

/-- Texts are cast to binary numbers of 64 bits. -/
theorem isProper_of_castTexts {tag : Tag} {isArray : Bool} {first : String} {rest : List String}
    {v : Value} (hv : castTexts tag isArray first rest = .ok v) : v.IsProper := by
  intro x hx
  unfold castTexts at hv
  split at hv
  · obtain ⟨as, -, rfl⟩ := map_eq_ok.1 hv
    cases hx
  · obtain ⟨a, ha, rfl⟩ := map_eq_ok.1 hv
    cases tag with
    | string =>
      obtain rfl := Except.ok.inj ha
      cases hx
    | other name => cases ha
    | float =>
      obtain ⟨y, hy, rfl⟩ := map_eq_ok.1 ha
      obtain rfl : y = x := Number.float.inj (Option.some.inj hx)
      rw [Cast.toFloat] at hy
      split at hy
      · cases hy
      · split at hy
        · rename_i z hz
          obtain rfl := Except.ok.inj hy
          exact Binary64.isProper_parse hz
        · cases hy
    | int | decimal | boolean =>
      obtain ⟨y, -, rfl⟩ := map_eq_ok.1 ha
      cases hx

/-! ## Bounds -/

namespace Number

/-- The values of two numbers stand in a relation; that of NaN stands in none. -/
def Relates (x : Number) (r : Extended → Extended → Prop) (b : Number) : Prop :=
  ∃ v w, x.toExtended? = some v ∧ b.toExtended? = some w ∧ r v w

/-- The bound `b` as it counts for numbers of the kind of `x`, if their type checks it itself: for
    floats it is rounded to the nearest float, and a float that bounds decimals counts as the decimal
    that it is written as, if it is finite. -/
def counted (x b : Number) : Number :=
  match x, b with
  | .float _, b => .float b.toBinary
  | .decimal _, .float y =>
    match Decimal.ofBinary? y with
    | some d => .decimal d
    | none => b
  | _, b => b

/-- The number keeps to the constraint, if it is a bound on numbers: its exact value is above or
    below that of the bound, as the constraint asks. -/
def KeepsTo (x : Number) (c : Constraint) : Prop :=
  match c with
  | .gt b => x.Relates (· > ·) b
  | .ge b => x.Relates (· ≥ ·) b
  | .lt b => x.Relates (· < ·) b
  | .le b => x.Relates (· ≤ ·) b
  | _ => True

end Number

namespace Constraint

/-- The constraint with the bound that counts for numbers of the kind of `x`. -/
def counted (x : Number) : Constraint → Constraint
  | .gt b => .gt (x.counted b)
  | .ge b => .ge (x.counted b)
  | .lt b => .lt (x.counted b)
  | .le b => .le (x.counted b)
  | c => c

/-- If the constraint is a bound on numbers, the bound is a number that exists. -/
def IsProper : Constraint → Prop
  | .gt b | .ge b | .lt b | .le b => b.IsProper
  | _ => True

end Constraint

/-- The bounds on numbers that count for a type hold of a number: the standing ones of those that
    the type checks itself, as they count for numbers of its kind, and all others as they are. -/
structure TypeExpr.NumberKeepsTo (t : TypeExpr) (cs : List Constraint) (x : Number) : Prop where
  own : ∀ c ∈ Constraint.standing (cs.takeWhile t.checks), x.KeepsTo (c.counted x)
  rest : ∀ c ∈ cs.dropWhile t.checks, x.KeepsTo c

section Bounds

variable {x b : Number} {l : Limits} {c : Constraint} {holds : Ordering → Bool}
  {r : Extended → Extended → Prop} {reason : Bound → Reason}

namespace Number

theorem relates_of_order? (hr : ∀ o v w, holds o = true → o.Compares v w → r v w)
    (hx : x.IsProper) (hb : b.IsProper) (ho : (x.order? b).any holds = true) : x.Relates r b := by
  obtain ⟨o, ho, hholds⟩ := (Option.any_eq_true _ _).1 ho
  obtain ⟨v, w, hv, hw, hcompares⟩ := compares_of_order? hx hb ho
  exact ⟨v, w, hv, hw, hr o v w hholds hcompares⟩

theorem gt_of_isGT (o : Ordering) (v w : Extended) (ho : o.isGT = true) (h : o.Compares v w) :
    v > w := by
  cases o with
  | gt => exact h
  | lt | eq => cases ho

theorem ge_of_isGE (o : Ordering) (v w : Extended) (ho : o.isGE = true) (h : o.Compares v w) :
    v ≥ w := by
  cases o with
  | gt => exact le_of_lt h
  | eq => exact ge_of_eq h
  | lt => cases ho

theorem lt_of_isLT (o : Ordering) (v w : Extended) (ho : o.isLT = true) (h : o.Compares v w) :
    v < w := by
  cases o with
  | lt => exact h
  | gt | eq => cases ho

theorem le_of_isLE (o : Ordering) (v w : Extended) (ho : o.isLE = true) (h : o.Compares v w) :
    v ≤ w := by
  cases o with
  | lt => exact le_of_lt h
  | eq => exact le_of_eq h
  | gt => cases ho

/-- A number below a lower bound does not keep to it. -/
theorem not_keepsTo_ge (hx : x.IsProper) (hb : b.IsProper) (ho : x.order? b = some .lt) :
    ¬x.KeepsTo (.ge b) := by
  rintro ⟨v, w, hv, hw, hge⟩
  obtain ⟨v', w', hv', hw', hlt⟩ := compares_of_order? hx hb ho
  obtain rfl := Option.some.inj (hv.symm.trans hv')
  obtain rfl := Option.some.inj (hw.symm.trans hw')
  exact not_le_of_gt hlt hge

/-! ### Bounds that the type checks itself -/

theorem isProper_boundFor (hb : b.IsProper) : (x.boundFor b).IsProper := by
  cases x with
  | int m =>
    rw [boundFor]
    cases b.truncated? with
    | none => exact hb
    | some n =>
      dsimp only
      split
      · trivial
      · exact hb
  | float y => exact isProper_toBinary hb
  | decimal d =>
    cases b with
    | int n => trivial
    | float y =>
      rw [boundFor]
      split
      · trivial
      · exact hb
    | decimal e => trivial

/-- The bound that is put into the kind of a number has the value of the one that counts: it is
    made an integer only where nothing is lost. -/
theorem toExtended?_boundFor (hb : b.IsProper) :
    (x.boundFor b).toExtended? = (x.counted b).toExtended? := by
  cases x with
  | int m =>
    change _ = b.toExtended?
    rw [boundFor]
    cases b.truncated? with
    | none => rfl
    | some n =>
      dsimp only
      split
      · rename_i hequal
        exact (toExtended?_eq_of_equal (b := .int n) hb trivial hequal).symm
      · rfl
  | float y => rfl
  | decimal d =>
    cases b with
    | int n =>
      change some (((Decimal.ofInt n).toRat : WithTop ℚ) : Extended) = _
      rw [toRat_ofInt]
      rfl
    | float y =>
      cases hy : Decimal.ofBinary? y <;> simp only [boundFor, counted, hy]
    | decimal e => rfl

theorem relates_counted (hb : b.IsProper) (h : x.Relates r (x.boundFor b)) :
    x.Relates r (x.counted b) := by
  rwa [Relates, toExtended?_boundFor hb] at h

end Number

namespace Limits

theorem any_of_breach? {bound : Option Number} (hb : bound = some b)
    (h : breach? holds reason x bound = none) : (x.order? (x.boundFor b)).any holds = true := by
  rw [hb] at h
  by_contra hnot
  simp [breach?, hnot] at h

/-- A number that passes the check of limits keeps to the bounds that the limits say. -/
theorem keepsTo_of_checkNumber (hx : x.IsProper) (hn : l.checkNumber x = .ok ()) (hl : l.add c = l)
    (hc : c.IsProper) : x.KeepsTo (c.counted x) := by
  rw [checkNumber, orRefuse_eq_ok, Option.orElse_eq_none, Option.orElse_eq_none, boundBreach?,
    Option.orElse_eq_none, Option.orElse_eq_none, Option.orElse_eq_none] at hn
  -- That the limits say the bound already makes it the one that is compared with.
  obtain ⟨-, -, hle, hlt, hge, hgt⟩ := hn
  cases c with
  | gt b =>
    exact Number.relates_counted hc <| Number.relates_of_order? Number.gt_of_isGT hx
      (Number.isProper_boundFor hc) (any_of_breach? (congrArg Limits.gt hl).symm hgt)
  | ge b =>
    exact Number.relates_counted hc <| Number.relates_of_order? Number.ge_of_isGE hx
      (Number.isProper_boundFor hc) (any_of_breach? (congrArg Limits.ge hl).symm hge)
  | lt b =>
    exact Number.relates_counted hc <| Number.relates_of_order? Number.lt_of_isLT hx
      (Number.isProper_boundFor hc) (any_of_breach? (congrArg Limits.lt hl).symm hlt)
  | le b =>
    exact Number.relates_counted hc <| Number.relates_of_order? Number.le_of_isLE hx
      (Number.isProper_boundFor hc) (any_of_breach? (congrArg Limits.le hl).symm hle)
  | _ => trivial

end Limits

/-! ### Bounds that are checked one by one -/

namespace Constraint

theorem any_of_checkBound {w : Value} (hw : c.checkBound holds reason b (.number x) = .ok w) :
    (x.order? b).any holds = true := by
  rw [checkBound] at hw
  change (if (x.order? b).any holds then _ else _) = _ at hw
  split at hw
  · assumption
  · cases hw

theorem keepsTo_of_check {schema : String} {w : Value} (hx : x.IsProper) (hc : c.IsProper)
    (hw : c.check schema (.number x) = .ok w) : x.KeepsTo c := by
  cases c with
  | gt b =>
    rw [check] at hw
    exact Number.relates_of_order? Number.gt_of_isGT hx hc (any_of_checkBound hw)
  | ge b =>
    rw [check] at hw
    exact Number.relates_of_order? Number.ge_of_isGE hx hc (any_of_checkBound hw)
  | lt b =>
    rw [check] at hw
    exact Number.relates_of_order? Number.lt_of_isLT hx hc (any_of_checkBound hw)
  | le b =>
    rw [check] at hw
    exact Number.relates_of_order? Number.le_of_isLE hx hc (any_of_checkBound hw)
  | _ => trivial

end Constraint

end Bounds

/-! ## Conversion to numbers -/

/-- The type is one of numbers. -/
inductive PlainType.IsNumeric : PlainType → Prop
  | int : IsNumeric .int
  | float : IsNumeric .float
  | decimal : IsNumeric .decimal

/-- What is converted to a type of numbers is a number within the limits. -/
theorem PlainType.IsNumeric.of_convertPlain {type : PlainType} {l : Limits} {v w : Value}
    (ht : type.IsNumeric) (hv : v.IsProper) (hw : (convertPlain type l v).result = .ok w) :
    ∃ x, w = .number x ∧ x.IsProper ∧ l.checkNumber x = .ok () := by
  cases ht with
  | int =>
    obtain ⟨n, -, hw⟩ := Converted.bind_result_eq_ok.1 hw
    obtain ⟨_, hn, hw⟩ := Converted.bind_result_eq_ok.1 hw
    exact ⟨.int n, (Converted.pure_result_eq_ok.1 hw).symm, trivial,
      Converted.ofReason_result_eq_ok.1 hn⟩
  | float =>
    obtain ⟨x, hx, hw⟩ := Converted.bind_result_eq_ok.1 hw
    obtain ⟨_, hn, hw⟩ := Converted.bind_result_eq_ok.1 hw
    exact ⟨.float x, (Converted.pure_result_eq_ok.1 hw).symm, Scalar.isProper_of_toBinary hv hx,
      Converted.ofReason_result_eq_ok.1 hn⟩
  | decimal =>
    obtain ⟨d, -, hw⟩ := Converted.bind_result_eq_ok.1 hw
    obtain ⟨_, hn, hw⟩ := Converted.bind_result_eq_ok.1 hw
    exact ⟨.decimal d, (Converted.pure_result_eq_ok.1 hw).symm, trivial,
      Converted.ofReason_result_eq_ok.1 hn⟩

/-- A type of numbers reshapes nothing. -/
theorem PlainType.IsNumeric.not_isReshaping {type : PlainType} {c : Constraint}
    (ht : type.IsNumeric) (hc : (TypeExpr.plain type).checks c = true) : c.isReshaping = false := by
  cases c with
  | reshape r => cases ht <;> cases hc
  | _ => rfl

/-- What is converted to a type of numbers keeps to the bounds that count. -/
theorem keepsTo_of_convert {type : PlainType} {cs : List Constraint} {v w : Value}
    (ht : type.IsNumeric) (hv : v.IsProper) (hcs : ∀ c ∈ cs, c.IsProper)
    (hw : (convert (.plain type) cs v).result = .ok w) :
    ∃ x, w = .number x ∧ x.IsProper ∧ (TypeExpr.plain type).NumberKeepsTo cs x := by
  rw [convert] at hw
  obtain ⟨y, hy, hw⟩ := TypeExpr.within_result_eq_ok.1 hw
  obtain ⟨x, rfl, hx, hn⟩ := ht.of_convertPlain hv hy
  have htext (s : String) : (Scalar.toText (.number x)).result ≠ .ok s :=
    Converted.refuse_result_ne_ok
  obtain rfl := Constraint.eq_of_checkAll_of_not_text htext hw
  refine ⟨x, rfl, hx, fun c hc => ?_, fun c hc => ?_⟩
  · have hmem := Constraint.mem_of_mem_standing hc
    have hadd := Limits.add_of_mem_standing (ht.not_isReshaping (List.mem_takeWhile_imp hmem)) hc
    exact Limits.keepsTo_of_checkNumber hx hn hadd (hcs c (List.takeWhile_subset _ hmem))
  · obtain ⟨schema, hcheck⟩ := Constraint.check_of_mem htext hw hc
    exact Constraint.keepsTo_of_check hx (hcs c (List.dropWhile_subset _ hc)) hcheck

/-! ## Parameters -/

namespace Parameter

variable {p : Parameter} {h : Headers} {lenient : Bool} {v w : Value}

/-- The constraints on the values of a parameter, those of its type first. -/
def constraints (p : Parameter) : List Constraint :=
  p.type.baseConstraints ++ constraintsOf p.notes

/-- A value of a parameter of numbers or of an array keeps to the bounds that count: it is a number
    within those on numbers, or a collection of a size within those on sizes. -/
structure KeepsBounds (p : Parameter) (v : Value) : Prop where
  number : ∀ type : PlainType, type.IsNumeric → p.type.base = .plain type →
    ∃ x, v = .number x ∧ p.type.base.NumberKeepsTo p.constraints x
  size : ∀ form item, p.type.base = .collection form item → item.scalarTag?.isSome = true →
    ∃ kind items, v = .collection kind items ∧
      p.type.base.SizeKeepsTo p.constraints items.length

/-- A value is finished by one conversion under all constraints: of the cast value, if there are no
    notes, and otherwise of what that was converted to first. -/
theorem convert_of_finish (hu : p.type.base.isUnion = false) (hv : v ≠ .absent)
    (hw : p.finish v = .ok w) (hpresent : w ≠ .absent) :
    ∃ y, (TypedHeaders.convert p.type.base p.constraints y).result = .ok w ∧
      (y = v ∨ (TypedHeaders.convert p.type.base p.type.baseConstraints v).result = .ok y) := by
  have hpresent_iff {v : Value} (hv : v ≠ .absent) : v.isAbsent = false :=
    Bool.eq_false_iff.2 fun h => hv (Value.isAbsent_iff.1 h)
  obtain ⟨x, hx, hw⟩ := finish_eq_ok hw
  rw [convert_eq_base_of_present [] hu (hpresent_iff hv), List.append_nil] at hx
  rcases hw with ⟨hnotes | rfl, rfl⟩ | ⟨⟨-, hne⟩, hw⟩
  · refine ⟨v, ?_, .inl rfl⟩
    rwa [constraints, hnotes, constraintsOf, List.flatMap_nil, List.append_nil]
  · exact absurd rfl hpresent
  · refine ⟨x, ?_, .inr hx⟩
    rwa [convert_eq_base_of_present _ (TypeExpr.base_stripOptional hu ▸ hu) (hpresent_iff hne),
      TypeExpr.base_stripOptional hu, TypeExpr.baseConstraints_stripOptional hu] at hw

/-- What a scalar or an array is bound to, if it is there, is finished from what texts are cast to. -/
theorem finish_of_bind (hp : p.isRecord = false) (hv : p.bind h lenient = .ok v)
    (hpresent : v ≠ .absent) :
    ∃ tag first rest cast, castTexts tag p.isArray first rest = .ok cast ∧
      p.finish cast = .ok v := by
  have htexts {tag : Tag} (hv : p.bindTexts tag h lenient = .ok v) :
      ∃ tag first rest cast, castTexts tag p.isArray first rest = .ok cast ∧
        p.finish cast = .ok v := by
    rw [bindTexts_eq] at hv
    split at hv
    · cases hv
    · exact absurd (Except.ok.inj hv).symm hpresent
    · cases hv
    · split at hv
      · rename_i cast hcast
        exact ⟨tag, _, _, cast, hcast, hv⟩
      · cases hv
  cases hr : p.reading with
  | scalar tag _ | array tag _ =>
    simp only [bind, hr] at hv
    exact htexts hv
  | record r _ =>
    rw [isRecord, hr] at hp
    cases hp

/-- What a scalar or an array is bound to keeps to the bounds that count, if it is there. -/
theorem keepsBounds_of_bind (hp : p.isRecord = false) (hcs : ∀ c ∈ p.constraints, c.IsProper)
    (hv : p.bind h lenient = .ok v) (hpresent : v ≠ .absent) : p.KeepsBounds v := by
  obtain ⟨tag, first, rest, cast, hcast, hfinish⟩ := finish_of_bind hp hv hpresent
  have hne : cast ≠ .absent := fun he => castTexts_ne_absent (he ▸ hcast)
  refine ⟨fun type ht hbase => ?_, fun form item hbase ht => ?_⟩
  · obtain ⟨y, hy, hfirst⟩ := convert_of_finish (by rw [hbase]; rfl) hne hfinish hpresent
    rw [hbase] at hy hfirst
    -- What is converted last has 64 bits: it was cast, or converted from what was cast.
    have hproper : y.IsProper := by
      rcases hfirst with rfl | hfirst
      · exact isProper_of_castTexts hcast
      · obtain ⟨x, rfl, hx, -⟩ := keepsTo_of_convert ht (isProper_of_castTexts hcast)
          (fun c hc => hcs c (List.mem_append_left _ hc)) hfirst
        exact fun z hz => by
          obtain rfl := Option.some.inj hz
          exact hx
    obtain ⟨x, rfl, -, hkeeps⟩ := keepsTo_of_convert ht hproper hcs hy
    exact ⟨x, rfl, hbase ▸ hkeeps⟩
  · obtain ⟨y, hy, -⟩ := convert_of_finish (by rw [hbase]; rfl) hne hfinish hpresent
    rw [hbase] at hy ⊢
    exact sizeKeepsTo_of_convert ht hy

/-- A parameter of numbers is bound to the number that it is bound to a value of. -/
theorem bind_eq_number {type : PlainType} {x : Number} (ht : type.IsNumeric)
    (hbase : p.type.base = .plain type) (hp : p.isRecord = false)
    (hcs : ∀ c ∈ p.constraints, c.IsProper)
    (hx : (p.bind h lenient).toOption.bind Value.number? = some x) :
    p.bind h lenient = .ok (.number x) := by
  cases hv : p.bind h lenient with
  | error e =>
    rw [hv] at hx
    cases hx
  | ok v =>
    rw [hv] at hx
    have hpresent : v ≠ .absent := by
      rintro rfl
      cases hx
    obtain ⟨y, rfl, -⟩ := (keepsBounds_of_bind hp hcs hv hpresent).number type ht hbase
    obtain rfl : y = x := Option.some.inj hx
    rfl

end Parameter

namespace BindingSet

/-- What is written for a scalar or an array, once the parameters before it are bound, is nothing or
    keeps to the bounds that count; whether the other parameters are bound does not matter, nor
    whether there is a slot for the flag. -/
theorem populate_keeps_bounds (s : BindingSet) {p : Parameter} {qs ps : List Parameter}
    (hs : s.params = qs ++ p :: ps) (hp : p.isRecord = false)
    (hcs : ∀ c ∈ p.constraints, c.IsProper) (h : Headers) (lenient : Bool) {old feed : Feed}
    (hqs : old.populate h lenient qs = (feed, none)) :
    (∃ e, s.populate h lenient old = (feed, some e)) ∨
      ∃ v, (v = .absent ∨ p.KeepsBounds v) ∧
        (s.populate h lenient old = (feed.write p.slot v).populate h lenient ps ∨
          s.populate h lenient old = (feed.set p.slot v, some .noSlotToWrite)) := by
  rw [populate, hs, Feed.populate_append hqs]
  cases hv : p.bind h lenient with
  | error e => exact .inl ⟨e, Feed.populate_cons_of_error hv⟩
  | ok v =>
    refine .inr ⟨v, ?_, ?_⟩
    · by_cases hpresent : v = .absent
      · exact .inl hpresent
      · exact .inr (Parameter.keepsBounds_of_bind hp hcs hv hpresent)
    · by_cases hslot : p.slot + 1 < feed.length
      · exact .inl (Feed.populate_cons_of_ok hv hslot)
      · refine .inr ?_
        rw [Feed.populate, hv]
        simp only [Feed.store, if_neg hslot]

/-- What the only parameter of a set is bound to is written, and the flag behind it. -/
theorem populate_single {p : Parameter} {h : Headers} {v : Value} (hslot : p.slot = 0)
    (hv : p.bind h true = .ok v) :
    populate { params := [p] } h true (Feed.empty 2) = ([v, .bool true], none) := by
  have hroom : p.slot + 1 < (Feed.empty 2).length := by
    rw [hslot]
    decide
  rw [populate, Feed.populate_cons_of_ok hv hroom, hslot]
  rfl

set_option maxRecDepth 20000 in
/-- Of two lower bounds on a nilable integer the last one counts, which three keeps to. -/
theorem populate_keeps_bounds_last :
    let p : Parameter := ⟨"n", "n", 0, .scalar .int, .optional (.plain .int), true,
      [.limits { ge := some (.int 5) }, .limits { ge := some (.int 1), lt := some (.int 10) }]⟩
    let s : BindingSet := { params := [p] }
    let h : Headers := ⟨[("n", "3")]⟩
    let old : Feed := Feed.empty 2
    p.isRecord = false ∧ (∀ c ∈ p.constraints, c.IsProper) ∧
      s.populate h true old = ([.int 3, .bool true], none) ∧
      ((∃ e, s.populate h true old = (old, some e)) ∨
        ∃ v, (v = .absent ∨ p.KeepsBounds v) ∧
          (s.populate h true old = (old.write p.slot v).populate h true [] ∨
            s.populate h true old = (old.set p.slot v, some .noSlotToWrite))) := by
  intro p s h old
  have hproper : ∀ c ∈ p.constraints, c.IsProper := by
    have hconstraints : p.constraints = [.ge (.int 5), .ge (.int 1), .lt (.int 10)] := by
      decide +kernel
    rw [hconstraints]
    simp [Constraint.IsProper, Number.IsProper]
  have hbind : p.bind h true = .ok (.int 3) := by
    subst p h
    rfl
  have hs : s.params = [] ++ p :: [] := rfl
  have hqs : old.populate h true [] = (old, none) := rfl
  exact ⟨rfl, hproper, populate_single rfl hbind,
    populate_keeps_bounds s hs rfl hproper h true hqs⟩

set_option maxRecDepth 20000 in
/-- Bounds that do not count are missed: the first of two lower bounds on an integer, an integer
    that no float is exactly, a float that is written shorter than it is, and the first of two
    greatest sizes. -/
theorem populate_misses_bounds :
    let p (reading : Reading) (type : TypeExpr) (ls : List Limits) : Parameter :=
      ⟨"v", "v", 0, reading, type, false, ls.map (.limits ·)⟩
    let n := p (.scalar .int) (.plain .int) [{ ge := some (.int 5) }, { ge := some (.int 1) }]
    let x := p (.scalar .float) (.plain .float) [{ ge := some (.int 9007199254740993) }]
    let y := Binary64.ofInt 9007199254740992
    let tenth : Number := .float (Binary64.ofDecimal false 1 (-1))
    let d := p (.scalar .decimal) (.plain .decimal) [{ ge := some tenth }]
    let items := p (.array .int) (.collection .list (.plain .int))
      [{ maxLength := some 1 }, { maxLength := some 3 }]
    (populate { params := [n] } ⟨[("v", "3")]⟩ true (Feed.empty 2) = ([.int 3, .bool true], none) ∧
      .ge (.int 5) ∈ n.constraints ∧ ¬Number.KeepsTo (.int 3) (.ge (.int 5))) ∧
    (populate { params := [x] } ⟨[("v", "9007199254740992")]⟩ true (Feed.empty 2) =
        ([.float y, .bool true], none) ∧
      .ge (.int 9007199254740993) ∈ x.constraints ∧
      ¬Number.KeepsTo (.float y) (.ge (.int 9007199254740993))) ∧
    (populate { params := [d] } ⟨[("v", "0.1")]⟩ true (Feed.empty 2) =
        ([.decimal ⟨false, 1, -1⟩, .bool true], none) ∧
      .ge tenth ∈ d.constraints ∧ ¬Number.KeepsTo (.decimal ⟨false, 1, -1⟩) (.ge tenth)) ∧
    populate { params := [items] } ⟨[("v", "1"), ("v", "2")]⟩ true (Feed.empty 2) =
        ([.collection .list [.int 1, .int 2], .bool true], none) ∧
      .maxLength 1 ∈ items.constraints ∧ ¬(Constraint.maxLength 1).KeptBySize 2 := by
  intro p n x y tenth d items
  have htenth : tenth.IsProper := Binary64.isProper_ofDecimal _ _ _
  have hn : n.constraints = [.ge (.int 5), .ge (.int 1)] := by decide +kernel
  have hx : x.constraints = [.ge (.int 9007199254740993)] := by decide +kernel
  have hd : d.constraints = [.ge tenth] := by decide +kernel
  have hitems : items.constraints = [.maxLength 1, .maxLength 3] := by decide +kernel
  have hbindn : n.bind ⟨[("v", "3")]⟩ true = .ok (.int 3) := by
    subst n p
    rfl
  have hbindx : x.bind ⟨[("v", "9007199254740992")]⟩ true = .ok (.float y) :=
    Parameter.bind_eq_number .float rfl rfl (by rw [hx]; simp [Constraint.IsProper, Number.IsProper])
      (by decide +kernel)
  have hbindd : d.bind ⟨[("v", "0.1")]⟩ true = .ok (.decimal ⟨false, 1, -1⟩) :=
    Parameter.bind_eq_number .decimal rfl rfl (by rw [hd]; simpa [Constraint.IsProper] using htenth)
      (by decide +kernel)
  have hbinditems : items.bind ⟨[("v", "1"), ("v", "2")]⟩ true =
      .ok (.collection .list [.int 1, .int 2]) := by
    subst items p
    rfl
  refine ⟨⟨populate_single rfl hbindn, ?_, ?_⟩, ⟨populate_single rfl hbindx, ?_, ?_⟩,
    ⟨populate_single rfl hbindd, ?_, ?_⟩, populate_single rfl hbinditems, ?_, ?_⟩
  · exact hn ▸ List.mem_cons_self
  · exact Number.not_keepsTo_ge trivial trivial rfl
  · exact hx ▸ List.mem_cons_self
  · exact Number.not_keepsTo_ge (Binary64.isProper_ofInt _) trivial (by decide +kernel)
  · exact hd ▸ List.mem_cons_self
  · exact Number.not_keepsTo_ge trivial htenth (by decide +kernel)
  · exact hitems ▸ List.mem_cons_self
  · exact Nat.not_succ_le_self 1

end BindingSet

end TypedHeaders
