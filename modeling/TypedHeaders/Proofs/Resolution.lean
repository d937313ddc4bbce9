import TypedHeaders.Conversion
import TypedHeaders.Resolution

/-!
# The base of a declared type

What a declared type resolves to is decided by its *base*: what is left of it
without the notes around it, without nothing among its members, and without the
notes around the other member (`TypeExpr.base`). The conversion to the type is
that to its base, under the constraints that all those notes state
(`convert_eq_base`) — apart from nothing, which a nilable type takes as it is.
-/

namespace TypedHeaders

namespace TypeExpr

/-- The type without the notes around it, nothing among its members, and the notes around the other
    member. -/
def base (t : TypeExpr) : TypeExpr := t.unwrap.stripOptional.unwrap

/-- Is the type a union with nothing, under its notes? -/
def isNilable (t : TypeExpr) : Bool := t.unwrap.isOptional

/-- The constraints that the notes around a type state. -/
def stated : TypeExpr → List Constraint
  | .annotated t notes => stated t ++ constraintsOf notes
  | _ => []

/-- The constraints that the notes between a type and its base state. -/
def baseConstraints (t : TypeExpr) : List Constraint :=
  t.unwrap.stripOptional.stated ++ t.stated

/-- A union of any style is one. -/
def isUnion : TypeExpr → Bool
  | .union _ _ => true
  | _ => false

/-- A type that is bound from one header: a scalar, or a collection of scalars. -/
def IsPlainlyBound (t : TypeExpr) : Prop := t.scalarTag?.isSome ∨ t.arrayTag?.isSome

/-! ## Resolving -/

theorem resolve_eq (t : TypeExpr) :
    t.resolve =
      match t.base.scalarTag?, t.base.arrayTag? with
      | some tag, _ => .ok ⟨.scalar, some tag, t.isNilable⟩
      | none, some tag => .ok ⟨.array, some tag, t.isNilable⟩
      | none, none =>
        if t.base.isRecord then .ok ⟨.record, none, t.isNilable⟩ else .error (.unsupported t) := by
  simp only [resolve, base, isNilable]
  cases (t.unwrap.stripOptional.unwrap).scalarTag? with
  | some tag => rfl
  | none => cases (t.unwrap.stripOptional.unwrap).arrayTag? <;> rfl

theorem nilable_of_resolve {t : TypeExpr} {r : Resolution} (hr : t.resolve = .ok r) :
    r.nilable = t.isNilable := by
  rw [resolve_eq] at hr
  split at hr
  · cases hr; rfl
  · cases hr; rfl
  · split at hr
    · cases hr; rfl
    · cases hr

/-- Types with the same base resolve to the same if both are nilable, or neither is. -/
theorem resolve_congr {t u : TypeExpr} (hbase : t.base = u.base)
    (hnilable : t.isNilable = u.isNilable) {r : Resolution} :
    t.resolve = .ok r ↔ u.resolve = .ok r := by
  simp only [resolve_eq, hbase, hnilable]
  cases u.base.scalarTag? with
  | some tag => rfl
  | none =>
    cases u.base.arrayTag? with
    | some tag => rfl
    | none => cases u.base.isRecord <;> simp

/-- A type that resolves to a scalar or an array has such a base. -/
theorem isPlainlyBound_of_resolve {t : TypeExpr} {r : Resolution} (hr : t.resolve = .ok r)
    (hk : r.kind ≠ .record) : t.base.IsPlainlyBound := by
  rw [resolve_eq] at hr
  cases hs : t.base.scalarTag? with
  | some tag => exact .inl (by rw [hs]; rfl)
  | none =>
    cases ha : t.base.arrayTag? with
    | some tag => exact .inr (by rw [ha]; rfl)
    | none =>
      rw [hs, ha] at hr
      dsimp only at hr
      split at hr
      · cases hr; exact absurd rfl hk
      · cases hr

theorem not_isUnion_of_isPlainlyBound {t : TypeExpr} (ht : t.IsPlainlyBound) :
    t.isUnion = false := by
  cases t with
  | union style ts => exact ht.elim (fun h => by cases h) fun h => by cases h
  | _ => rfl

theorem isNothing_of_isPlainlyBound {t : TypeExpr} (ht : t.IsPlainlyBound) :
    t.isNothing = false := by
  unfold isNothing
  split
  · exact ht.elim (fun h => by cases h) fun h => by cases h
  · rfl

/-! ## Notes around a type -/

@[simp] theorem unwrap_unwrap : (t : TypeExpr) → t.unwrap.unwrap = t.unwrap
  | .annotated t _ => unwrap_unwrap t
  | .plain _ | .enum _ | .literal _ | .collection _ _ | .fixedTuple _ | .mapping _ _ | .union _ _
  | .presence _ _ | .record _ _ => rfl

/-- Below the notes around a type there are none. -/
theorem unwrap_ne_annotated {u : TypeExpr} {notes : List Note} :
    (t : TypeExpr) → t.unwrap ≠ .annotated u notes
  | .annotated t _ => unwrap_ne_annotated t
  | .plain _ | .enum _ | .literal _ | .collection _ _ | .fixedTuple _ | .mapping _ _ | .union _ _
  | .presence _ _ | .record _ _ => fun h => by cases h

@[simp] theorem stated_unwrap : (t : TypeExpr) → t.unwrap.stated = []
  | .annotated t _ => stated_unwrap t
  | .plain _ | .enum _ | .literal _ | .collection _ _ | .fixedTuple _ | .mapping _ _ | .union _ _
  | .presence _ _ | .record _ _ => rfl

theorem isUnion_unwrap_of_isUnion {t : TypeExpr} (ht : t.isUnion = true) :
    t.unwrap.isUnion = true := by
  cases t with
  | union style ts => rfl
  | _ => cases ht

/-- A union of which a single member remains is stripped to it. -/
theorem stripOptional_eq_self {t : TypeExpr} (ht : t.isUnion = false) : t.stripOptional = t := by
  cases t with
  | union style ts => cases ht
  | _ => rfl

/-- The one member that a union has beside nothing, if its base is no union. -/
theorem filter_eq_of_stripOptional {style : UnionStyle} {ts : List TypeExpr}
    (hu : (TypeExpr.union style ts).stripOptional.isUnion = false) :
    ts.filter (!·.isNothing) = [(TypeExpr.union style ts).stripOptional] := by
  rw [stripOptional] at hu ⊢
  split at hu
  · rename_i t ht
    rw [ht]
  · cases hu

/-- If the base is no union, then neither is what remains without nothing. -/
theorem isUnion_stripOptional_unwrap {t : TypeExpr} (ht : t.base.isUnion = false) :
    t.unwrap.stripOptional.isUnion = false :=
  Bool.eq_false_iff.2 fun h => Bool.false_ne_true (ht ▸ isUnion_unwrap_of_isUnion h)

theorem isUnion_stripOptional {t : TypeExpr} (ht : t.base.isUnion = false) :
    t.stripOptional.isUnion = false := by
  cases t with
  | union style ts => exact isUnion_stripOptional_unwrap ht
  | _ => rfl

/-- The base does not change if nothing is taken out of the members. -/
theorem base_stripOptional {t : TypeExpr} (ht : t.base.isUnion = false) :
    t.stripOptional.base = t.base := by
  cases t with
  | union style ts =>
    change (TypeExpr.union style ts).stripOptional.unwrap.isUnion = false at ht
    change (TypeExpr.union style ts).stripOptional.unwrap.stripOptional.unwrap =
      (TypeExpr.union style ts).stripOptional.unwrap
    rw [stripOptional_eq_self ht, unwrap_unwrap]
  | _ => rfl

/-- The constraints between a type and its base do not change either. -/
theorem baseConstraints_stripOptional {t : TypeExpr} (ht : t.base.isUnion = false) :
    t.stripOptional.baseConstraints = t.baseConstraints := by
  cases t with
  | union style ts =>
    change (TypeExpr.union style ts).stripOptional.unwrap.isUnion = false at ht
    change (TypeExpr.union style ts).stripOptional.unwrap.stripOptional.stated ++
      (TypeExpr.union style ts).stripOptional.stated = (TypeExpr.union style ts).stripOptional.stated ++ []
    rw [stripOptional_eq_self ht, stated_unwrap, List.nil_append, List.append_nil]
  | _ => rfl

/-- What remains without nothing is nilable only if the type is. -/
theorem isNilable_of_stripOptional {t : TypeExpr} (ht : t.base.IsPlainlyBound)
    (hn : t.stripOptional.isNilable = true) : t.isNilable = true := by
  cases t with
  | union style ts =>
    -- What remains is no union, and it is not the type of nothing.
    have hb : (TypeExpr.union style ts).stripOptional.unwrap.isOptional = true := hn
    change (TypeExpr.union style ts).stripOptional.unwrap.IsPlainlyBound at ht
    cases hu : (TypeExpr.union style ts).stripOptional.unwrap with
    | union style us =>
      rw [hu] at ht
      cases not_isUnion_of_isPlainlyBound ht
    | plain p =>
      rw [hu] at hb ht
      exact absurd (hb.symm.trans (isNothing_of_isPlainlyBound ht)) (by decide)
    | _ => rw [hu] at hb; cases hb
  | _ => exact hn

@[simp] theorem base_annotate (t : TypeExpr) (notes : List Note) :
    (t.annotate notes).base = t.base := by
  cases t <;> rfl

@[simp] theorem isNilable_annotate (t : TypeExpr) (notes : List Note) :
    (t.annotate notes).isNilable = t.isNilable := by
  cases t <;> rfl

end TypeExpr

/-! ## Conversion to the base -/

open TypeExpr

theorem Value.isAbsent_iff {v : Value} : v.isAbsent = true ↔ v = .absent := by
  constructor
  · intro h
    unfold Value.isAbsent at h
    split at h
    · rfl
    · cases h
  · rintro rfl
    rfl

theorem convert_annotated {t : TypeExpr} {notes : List Note} {cs : List Constraint} {v : Value} :
    convert (.annotated t notes) cs v = convert t (constraintsOf notes ++ cs) v := by
  rw [convert]

theorem constraintsOf_append (ns ms : List Note) :
    constraintsOf (ns ++ ms) = constraintsOf ns ++ constraintsOf ms := List.flatMap_append

/-- Notes that are added to a type are heeded after those that it has. -/
theorem convert_annotate (t : TypeExpr) (notes : List Note) (cs : List Constraint) (v : Value) :
    convert (t.annotate notes) cs v = convert t (constraintsOf notes ++ cs) v := by
  cases t with
  | annotated t inner =>
    rw [annotate, convert_annotated, convert_annotated, constraintsOf_append, List.append_assoc]
  | _ => exact convert_annotated

theorem convert_unwrap : (t : TypeExpr) → (cs : List Constraint) → (v : Value) →
    convert t cs v = convert t.unwrap (t.stated ++ cs) v
  | .annotated t notes, cs, v => by
    rw [convert_annotated, unwrap, stated, convert_unwrap t, List.append_assoc]
  | .plain _, _, _ | .enum _, _, _ | .literal _, _, _ | .collection _ _, _, _
  | .fixedTuple _, _, _ | .mapping _ _, _, _ | .union _ _, _, _ | .presence _ _, _, _
  | .record _ _, _, _ => rfl

theorem convertOther_eq {ts : List TypeExpr} {t : TypeExpr} (cs : List Constraint) (v : Value)
    (ht : ts.filter (!·.isNothing) = [t]) : convertOther ts cs v = convert t cs v := by
  induction ts with
  | nil => cases ht
  | cons u us ih =>
    rw [convertOther]
    cases hu : u.isNothing with
    | true => exact ih (by rwa [List.filter_cons_of_neg (by simp [hu])] at ht)
    | false =>
      rw [List.filter_cons_of_pos (by simp [hu])] at ht
      rw [(List.cons.inj ht).1]
      rfl

theorem convert_stripOptional {t : TypeExpr} (cs : List Constraint) {v : Value}
    (ht : t.stripOptional.isUnion = false) (hv : ¬(v.isAbsent = true ∧ t.isOptional = true)) :
    convert t cs v = convert t.stripOptional cs v := by
  cases t with
  | union style ts =>
    have hfilter := filter_eq_of_stripOptional ht
    have hcount : (ts.countP fun t => !t.isNothing) = 1 := by
      rw [List.countP_eq_length_filter, hfilter, List.length_singleton]
    have hv' : ¬(v.isAbsent = true ∧ ts.any isNothing = true) := hv
    rw [convert, if_neg hv', if_pos hcount, convertOther_eq cs v hfilter]
  | _ => rfl

/-- The conversion to a declared type is that to its base, unless the type is nilable and there is
    no value. -/
theorem convert_eq_base {t : TypeExpr} (cs : List Constraint) {v : Value}
    (ht : t.base.isUnion = false) (hv : ¬(v.isAbsent = true ∧ t.isNilable = true)) :
    convert t cs v = convert t.base (t.baseConstraints ++ cs) v := by
  rw [convert_unwrap, convert_stripOptional _ (isUnion_stripOptional_unwrap ht) hv,
    convert_unwrap, base, baseConstraints, List.append_assoc]

theorem convert_eq_base_of_present {t : TypeExpr} (cs : List Constraint) {v : Value}
    (ht : t.base.isUnion = false) (hv : v.isAbsent = false) :
    convert t cs v = convert t.base (t.baseConstraints ++ cs) v :=
  convert_eq_base cs ht fun h => Bool.false_ne_true (hv.symm.trans h.1)

/-- Without nothing among its members, a type converts what is there as its base does, too. -/
theorem convert_stripOptional_eq_base {t : TypeExpr} (cs : List Constraint) {v : Value}
    (ht : t.base.isUnion = false) (hv : v.isAbsent = false) :
    convert t.stripOptional cs v = convert t.base (t.baseConstraints ++ cs) v := by
  have ht' : t.stripOptional.base.isUnion = false := by rwa [base_stripOptional ht]
  rw [convert_eq_base_of_present cs ht' hv, base_stripOptional ht, baseConstraints_stripOptional ht]

/-- A nilable type takes nothing as it is. -/
theorem convert_absent {t : TypeExpr} (cs : List Constraint) (hn : t.isNilable = true)
    (hb : t.base.isNothing = false) :
    convert t cs .absent = pure .absent := by
  rw [convert_unwrap]
  cases hu : t.unwrap with
  | union style ts =>
    rw [isNilable, hu] at hn
    rw [convert, if_pos ⟨rfl, hn⟩]
  | plain p =>
    rw [isNilable, hu] at hn
    rw [base, hu] at hb
    exact absurd (hn.symm.trans hb) (by decide)
  | _ => rw [isNilable, hu] at hn; cases hn

end TypedHeaders
