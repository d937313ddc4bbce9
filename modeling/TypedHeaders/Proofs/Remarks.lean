import TypedHeaders.Demo
import TypedHeaders.Proofs.Settling

/-!
# Remarks

A *remark* among the notes of a parameter asks nothing of a value, and yet it
matters: where notes remain to be checked, a converted value is converted a second
time. A parameter with one more remark (`Parameter.remarked`) is made where it was
made without (`Parameter.declare_remarked`). It fails where it failed before and is
bound to nothing where it was; and where it was bound to a value, it is bound to
the same one if there were notes to check before, or if the declared type settles
(`Parameter.outcome_remarked`).

Elsewhere the second conversion may refuse the value of the first one, or change
it (`Parameter.outcome_remarked_differs`).
-/

namespace TypedHeaders

open Converted

/-! ## Declarations with a remark -/

namespace TypeExpr

theorem notes_annotate (t : TypeExpr) (notes : List Note) :
    (t.annotate notes).notes = t.notes ++ notes := by
  cases t <;> rfl

theorem baseConstraints_target (t : TypeExpr) :
    t.baseConstraints = (Parameter.target t).baseConstraints ++ constraintsOf t.notes := by
  cases t with
  | annotated t notes => exact (List.append_assoc _ _ _).symm
  | _ => exact (List.append_nil _).symm

/-- Notes that state no constraints do not count for whether a type settles. -/
theorem settles_target {t : TypeExpr} (hnotes : constraintsOf t.notes = []) (ht : t.Settles) :
    (Parameter.target t).Settles := by
  have hconstraints := baseConstraints_target t
  rw [hnotes, List.append_nil] at hconstraints
  rwa [Settles, Parameter.base_target, ← hconstraints]

end TypeExpr

namespace Parameter

theorem target_annotate (t : TypeExpr) (notes : List Note) :
    target (t.annotate notes) = target t := by
  cases t <;> rfl

/-- The parameter with one more remark to check. -/
def remarked (p : Parameter) (s : String) : Parameter :=
  { p with notes := p.notes ++ [Note.remark s] }

/-- A remark in the declaration of a parameter is one more to check, and nothing else. -/
theorem ofType_remarked (converts : Bool) (name : String) (slot : Nat) (t : TypeExpr) (m : Marker)
    (s : String) :
    ofType converts name slot (t.annotate [.marker m, .remark s]) none =
      (ofType converts name slot (t.annotate [.marker m]) none).map (·.remarked s) := by
  have hmarker : markerOf? (t.notes ++ [Note.marker m, Note.remark s]) =
      markerOf? (t.notes ++ [Note.marker m]) := by
    rw [markerOf?, markerOf?, List.findSome?_append, List.findSome?_append]
    rfl
  have hremaining : remaining (t.notes ++ [Note.marker m, Note.remark s]) =
      remaining (t.notes ++ [Note.marker m]) ++ [Note.remark s] := by
    simp [remaining, Note.marker?]
  unfold ofType
  simp only [TypeExpr.notes_annotate, target_annotate, hmarker, hremaining]
  -- The type is resolved, and the fields of a record are described, from the same parts.
  generalize (target t).resolve = resolution
  generalize RecordDescriptor.ofType _ _ = descriptor
  cases resolution with
  | error e => rfl
  | ok resolution =>
    obtain ⟨kind, tag, nilable⟩ := resolution
    cases kind <;> cases tag <;> cases descriptor <;> rfl

/-- The conversions with the remark are built if those without it are. -/
theorem buildError?_remarked {p : Parameter} (hu : p.type.base.isUnion = false) (s : String) :
    (p.remarked s).buildError? = p.buildError? := by
  rw [buildError?, buildError?]
  cases hn : p.notes with
  | nil =>
    -- Only the remark is there to be checked, by the conversion to the type without nothing.
    have hnone : p.restriction.buildError? = none := by
      rw [restriction, hn]
      rfl
    have hremark : (p.remarked s).restriction.buildError? = p.type.buildError? := by
      rw [restriction, remarked, hn]
      exact (buildError?_annotate _ _ _).trans
        (buildError?_stripOptional [] (TypeExpr.isUnion_stripOptional hu)).symm
    rw [hnone, hremark]
    change (p.type.buildError? <|> p.type.buildError?) = _
    cases p.type.buildError? <;> rfl
  | cons n notes =>
    have hremark : (p.remarked s).restriction.buildError? = p.restriction.buildError? := by
      have hconstraints : constraintsOf (n :: notes ++ [Note.remark s]) =
          constraintsOf (n :: notes) := by
        rw [constraintsOf_append]
        exact List.append_nil _
      rw [restriction, restriction, remarked, hn]
      change TypedHeaders.buildError? (p.type.stripOptional.annotate _) [] =
        TypedHeaders.buildError? (p.type.stripOptional.annotate _) []
      rw [buildError?_annotate, buildError?_annotate, hconstraints]
    rw [hremark]
    rfl

/-- A parameter is made with a remark exactly if it is made without it; otherwise the reason is the
    same. -/
theorem declare_remarked (converts : Bool) (name : String) (slot : Int) (t : TypeExpr) (m : Marker)
    (s : String) :
    declare converts name slot (t.annotate [.marker m, .remark s]) none =
      (declare converts name slot (t.annotate [.marker m]) none).map (·.remarked s) := by
  rw [declare, declare, ofType_remarked]
  cases hp : ofType converts name slot.toNat (t.annotate [.marker m]) none with
  | error e => rfl
  | ok p =>
    change ((p.remarked s).build slot).mapError _ = ((p.build slot).mapError _).map _
    rw [build, build, buildError?_remarked (base_of_ofType hp).1]
    split
    · rfl
    · cases p.buildError? <;> rfl

end Parameter

/-! ## Checking a remark -/

namespace Restriction

variable {r : Restriction} {base : TypeExpr} {notes : List Note} {s header : String} {v : Value}

theorem check_of_no_notes (hn : r.notes = []) : r.check header v = .ok v := by
  rw [check, active, hn]
  rfl

theorem check_absent : r.check header .absent = .ok .absent :=
  if_pos (Bool.or_true _)

/-- A value that is converted to itself under the notes passes the check. -/
theorem check_of_convert_self (hv : (convert r.base (constraintsOf r.notes) v).result = .ok v) :
    r.check header v = .ok v := by
  have hconvert : (r.base.annotate r.notes).convert v = .ok v := by
    rw [TypeExpr.convert_eq_ok, convert_annotate, List.append_nil]
    exact hv
  rw [check, hconvert]
  split <;> rfl

/-- One more remark makes no difference where there are notes to check. -/
theorem check_remarked (hn : notes ≠ []) :
    check ⟨base, notes ++ [Note.remark s]⟩ header v = check ⟨base, notes⟩ header v := by
  have hactive : active ⟨base, notes ++ [Note.remark s]⟩ = active ⟨base, notes⟩ := by
    cases notes with
    | nil => exact absurd rfl hn
    | cons => rfl
  have hconvert :
      (base.annotate (notes ++ [Note.remark s])).convert v = (base.annotate notes).convert v := by
    rw [TypeExpr.convert, TypeExpr.convert, convert_annotate, convert_annotate,
      constraintsOf_append]
    congr 2
    exact List.append_nil _
  rw [check, check, hactive, hconvert]

end Restriction

/-! ## Binding with a remark -/

namespace Parameter

variable {p : Parameter} {h : Headers} {lenient : Bool} {s : String} {v w : Value} {e : BindError}

theorem finish_remarked_of_notes (hn : p.notes ≠ []) : (p.remarked s).finish v = p.finish v :=
  bind_congr fun _ => Restriction.check_remarked hn

/-- What cannot be finished cannot be finished with a remark, for the same reason. -/
theorem finish_remarked_of_error (he : p.finish v = .error e) :
    (p.remarked s).finish v = .error e := by
  by_cases hn : p.notes = []
  · rcases bind_eq_error.1 he with he | ⟨x, -, he⟩
    · exact bind_eq_error.2 (.inl he)
    · rw [Restriction.check_of_no_notes hn] at he
      cases he
  · rw [finish_remarked_of_notes hn, he]

theorem finish_remarked_of_absent (hw : p.finish v = .ok .absent) :
    (p.remarked s).finish v = .ok .absent := by
  by_cases hn : p.notes = []
  · obtain ⟨x, hx, hw⟩ := bind_eq_ok.1 hw
    rw [Restriction.check_of_no_notes hn] at hw
    obtain rfl := Except.ok.inj hw
    exact bind_eq_ok.2 ⟨.absent, hx, Restriction.check_absent⟩
  · rw [finish_remarked_of_notes hn, hw]

/-- A value that is converted to itself by the type of the parameter is finished with a remark. -/
theorem finish_remarked_of_convert_self (hu : p.type.base.isUnion = false) (hn : p.notes = [])
    (hw : p.finish v = .ok w) (hself : (TypedHeaders.convert p.type [] w).result = .ok w) :
    (p.remarked s).finish v = .ok w := by
  by_cases habsent : w = .absent
  · subst habsent
    exact finish_remarked_of_absent hw
  · obtain ⟨x, hx, hw⟩ := bind_eq_ok.1 hw
    rw [Restriction.check_of_no_notes hn] at hw
    obtain rfl := Except.ok.inj hw
    refine bind_eq_ok.2 ⟨x, hx, Restriction.check_of_convert_self ?_⟩
    have hpresent : x.isAbsent = false :=
      Bool.eq_false_iff.2 fun h => habsent (Value.isAbsent_iff.1 h)
    -- Of the notes only the remark is there, which states no constraints.
    have hconstraints : constraintsOf (p.remarked s).restriction.notes = [] := by
      rw [restriction, remarked, hn]
      rfl
    have hbase := TypeExpr.base_stripOptional hu
    rw [hconstraints]
    change (TypedHeaders.convert p.type.stripOptional [] x).result = .ok x
    rw [convert_eq_base_of_present [] (hbase ▸ hu) hpresent, hbase,
      TypeExpr.baseConstraints_stripOptional hu, ← convert_eq_base_of_present [] hu hpresent]
    exact hself

theorem source_remarked : (p.remarked s).source h lenient = p.source h lenient := by
  unfold source
  cases hr : p.reading <;> simp only [remarked, isArray, hr]

/-- Where a source is finished with a remark as it is without it, the parameter is bound the
    same. -/
theorem bind_remarked_of_finish {result : Except BindError Value}
    (hfinish : ∀ v, p.source h lenient = .ok (some v) → p.finish v = result →
      (p.remarked s).finish v = result)
    (hp : p.bind h lenient = result) : (p.remarked s).bind h lenient = result := by
  rw [bind_eq_source] at hp ⊢
  rw [source_remarked]
  split at hp
  · exact hp
  · exact hp
  · rename_i v hv
    exact hfinish v hv hp

theorem bind_remarked_of_error (hp : p.bind h lenient = .error e) :
    (p.remarked s).bind h lenient = .error e :=
  bind_remarked_of_finish (fun _ _ => finish_remarked_of_error) hp

theorem bind_remarked_of_absent (hp : p.bind h lenient = .ok .absent) :
    (p.remarked s).bind h lenient = .ok .absent :=
  bind_remarked_of_finish (fun _ _ => finish_remarked_of_absent) hp

theorem bind_remarked_of_notes (hn : p.notes ≠ []) :
    (p.remarked s).bind h lenient = p.bind h lenient :=
  bind_remarked_of_finish (fun _ _ hv => (finish_remarked_of_notes hn).trans hv) rfl

/-- A parameter without notes whose type settles is bound the same with a remark. -/
theorem bind_remarked_of_settles {converts : Bool} {name : String} {slot : Int}
    {declared : TypeExpr} {given : Option Marker}
    (hp : declare converts name slot declared given = .ok p) (hn : p.notes = [])
    (hs : p.type.Settles) : (p.remarked s).bind h lenient = p.bind h lenient := by
  obtain ⟨htype, -, hbuilt⟩ := declare_eq_ok.1 hp
  obtain ⟨hunion, hnothing⟩ := base_of_ofType htype
  rw [buildError?, Option.orElse_eq_none] at hbuilt
  cases hbind : p.bind h lenient with
  | error e => exact bind_remarked_of_error hbind
  | ok w =>
    refine bind_remarked_of_finish (fun v hv hw => ?_) hbind
    obtain ⟨x, hx, hpass | ⟨⟨hne, -⟩, -⟩⟩ := finish_eq_ok hw
    · obtain rfl : w = x := hpass.2
      have hself := convert_again_of_isSource hnothing hbuilt.1 hs (isSource_of_source htype hv) hx
      exact finish_remarked_of_convert_self hunion hn hw hself
    · exact absurd hn hne

/-- A parameter is made with a remark if it is made without it. It fails with the remark where it
    fails without it, with the same error, and is nothing where it is nothing. It comes to the same
    everywhere if its type has other notes than markers, or if the type settles. -/
theorem outcome_remarked {converts : Bool} {name : String} {slot : Int} {t : TypeExpr} {m : Marker}
    (hp : declare converts name slot (t.annotate [.marker m]) none = .ok p) (s : String) :
    ∃ q, declare converts name slot (t.annotate [.marker m, .remark s]) none = .ok q ∧
      ∀ h lenient,
        (∀ e, p.outcome h lenient = .error e → q.outcome h lenient = .error e) ∧
        (p.outcome h lenient = .ok .absent → q.outcome h lenient = .ok .absent) ∧
        (remaining t.notes ≠ [] ∨ t.Settles → q.outcome h lenient = p.outcome h lenient) := by
  refine ⟨p.remarked s, by rw [declare_remarked, hp]; rfl, fun h lenient => ?_⟩
  rw [outcome_eq_bind, outcome_eq_bind]
  refine ⟨fun e => bind_remarked_of_error, bind_remarked_of_absent, fun ht => ?_⟩
  obtain ⟨-, htype, hnotes, -⟩ := of_ofType (ofType_of_declare hp)
  rw [target_annotate] at htype
  have hremaining : p.notes = remaining t.notes := by
    rw [hnotes, TypeExpr.notes_annotate, remaining, List.filter_append]
    exact List.append_nil _
  by_cases hn : p.notes = []
  · have hs : t.Settles := ht.resolve_left fun h => h (hremaining ▸ hn)
    refine bind_remarked_of_settles hp hn (htype ▸ TypeExpr.settles_target ?_ hs)
    rw [← constraintsOf_remaining, ← hremaining, hn]
    rfl
  · exact bind_remarked_of_notes hn

set_option maxRecDepth 20000 in
/-- A list of stripped texts in upper case is the same with a remark, also of texts that grew. -/
theorem outcome_remarked_settled :
    let t : TypeExpr := .collection .list (.annotated (.plain .str)
      [.textRules { strip := some true, minLength := some 1, toUpper := some true }])
    let p : Parameter := ⟨"a", "x", 0, .array .string, t, false, []⟩
    let h : Headers := ⟨[("x", " ab"), ("x", "ß")]⟩
    let v : Value := .collection .list [.text "AB", .text "SS"]
    declare true "a" 0 (t.annotate [.marker { name := some "x" }]) none = .ok p ∧ t.Settles ∧
      p.outcome h true = .ok v ∧
      ∃ q, declare true "a" 0 (t.annotate [.marker { name := some "x" }, .remark "note"]) none =
        .ok q ∧ q.outcome h true = .ok v := by
  intro t p h v
  have hp : declare true "a" 0 (t.annotate [.marker { name := some "x" }]) none = .ok p := by cbv
  have hs : t.Settles := by
    change textSettles _ = true
    decide
  have hv : p.outcome h true = .ok v := by
    rw [outcome_eq_bind]
    subst p t h v
    rfl
  obtain ⟨q, hq, hall⟩ := outcome_remarked hp "note"
  exact ⟨hp, hs, hv, q, hq, ((hall h true).2.2 (.inr hs)).trans hv⟩

/-- A parameter of the type that is bound from these headers comes to something else with a
    remark. -/
def RemarkCounts (t : TypeExpr) (h : Headers) : Prop :=
  ∃ p q v, declare true "a" 0 (t.annotate [.marker { name := some "x" }]) none = .ok p ∧
    declare true "a" 0 (t.annotate [.marker { name := some "x" }, .remark "note"]) none = .ok q ∧
    p.outcome h true = .ok v ∧ q.outcome h true ≠ .ok v

theorem remarkCounts_of_bind {t : TypeExpr} {h : Headers} {v : Value}
    (hp : declare true "a" 0 (t.annotate [.marker { name := some "x" }]) none = .ok p)
    (hv : p.bind h true = .ok v)
    (hne : ((p.remarked "note").bind h true).toOption.map Value.shown ≠ some v.shown) :
    RemarkCounts t h := by
  refine ⟨p, p.remarked "note", v, hp, ?_, ?_, ?_⟩
  · rw [declare_remarked, hp]
    rfl
  · rwa [outcome_eq_bind]
  · rw [outcome_eq_bind]
    exact fun h => hne (congrArg (fun r => r.toOption.map Value.shown) h)

set_option maxRecDepth 20000 in
/-- A remark counts where the type does not settle: a text in either case may be too long, and a
    template in upper case is none; in upper case the value of a member or a listed text may be
    none; and fields of a dictionary that are looked up under each other's names change places. -/
theorem outcome_remarked_differs :
    let text (notes : List Note) : TypeExpr := .optional (.annotated (.plain .str) notes)
    let raised : Note := .textRules { toUpper := some true }
    let lowered : Note := .textRules { toLower := some true }
    let swapped : List Field :=
      [{ name := "m", type := .plain .int, limits := some {}, validationAlias := some "n" },
        { name := "n", type := .plain .int, limits := some {}, validationAlias := some "m" }]
    RemarkCounts (text [.limits { maxLength := some 1 }, raised]) ⟨[("x", "ß")]⟩ ∧
      RemarkCounts (text [.limits { maxLength := some 1 }, lowered]) ⟨[("x", "\u0130")]⟩ ∧
      RemarkCounts (text [.limits { multipleOf := some (.int 5) }, raised]) ⟨[("x", "%.0s")]⟩ ∧
      RemarkCounts (.optional (.annotated (.enum Demo.tier) [raised])) ⟨[("x", "free")]⟩ ∧
      RemarkCounts (.optional (.annotated (.literal [.text "ab"]) [raised])) ⟨[("x", "ab")]⟩ ∧
      RemarkCounts (.record { name := "Swapped", kind := .typedDict } swapped)
        ⟨[("m", "1"), ("n", "2")]⟩ := by
  intro text raised lowered swapped
  subst text raised lowered swapped
  refine ⟨?_, ?_, ?_, ?_, ?_, ?_⟩
  · exact @remarkCounts_of_bind ⟨"a", "x", 0, .scalar .string, _, true, []⟩ _ _ (.text "SS")
      (by cbv) (by rfl) (by decide +kernel)
  · exact @remarkCounts_of_bind ⟨"a", "x", 0, .scalar .string, _, true, []⟩ _ _ (.text "i\u0307")
      (by cbv) (by rfl) (by decide +kernel)
  · exact @remarkCounts_of_bind ⟨"a", "x", 0, .scalar .string, _, true, []⟩ _ _ (.text "%.0S")
      (by cbv) (by rfl) (by decide +kernel)
  · exact @remarkCounts_of_bind ⟨"a", "x", 0, .scalar .string, _, true, []⟩ _ _ (.text "FREE")
      (by cbv) (by rfl) (by decide +kernel)
  · exact @remarkCounts_of_bind ⟨"a", "x", 0, .scalar .string, _, true, []⟩ _ _ (.text "AB")
      (by cbv) (by rfl) (by decide +kernel)
  · exact @remarkCounts_of_bind
      ⟨"a", "x", 0, .record ⟨[⟨"m", "m", .int, false, false⟩, ⟨"n", "n", .int, false, false⟩]⟩, _,
        false, []⟩ _ _ (.dict [("m", .int 2), ("n", .int 1)]) (by cbv) (by rfl) (by decide +kernel)

end Parameter

end TypedHeaders
