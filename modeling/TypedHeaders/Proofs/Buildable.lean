import TypedHeaders.Conversion.Build
import TypedHeaders.Proofs.Fields
import TypedHeaders.Proofs.Resolution

/-!
# Conversions that are built

Notes around a type and nothing beside it count for building its conversion as they
count for the conversion itself: what is built is the conversion to the base, under
all constraints in between (`buildError?_eq_base`). Where a conversion is built, so
are those to the types within it (`built_item`, `built_field`).
-/

namespace TypedHeaders

open TypeExpr

variable {t : TypeExpr} {cs : List Constraint}

theorem buildError?_annotated {notes : List Note} :
    buildError? (.annotated t notes) cs = buildError? t (constraintsOf notes ++ cs) := by
  rw [buildError?]

/-- Notes that are added to a type count after those that it has. -/
theorem buildError?_annotate (t : TypeExpr) (notes : List Note) (cs : List Constraint) :
    buildError? (t.annotate notes) cs = buildError? t (constraintsOf notes ++ cs) := by
  cases t with
  | annotated t inner =>
    rw [annotate, buildError?_annotated, buildError?_annotated, constraintsOf_append,
      List.append_assoc]
  | _ => exact buildError?_annotated

theorem buildError?_unwrap : (t : TypeExpr) → (cs : List Constraint) →
    buildError? t cs = buildError? t.unwrap (t.stated ++ cs)
  | .annotated t notes, cs => by
    rw [buildError?_annotated, unwrap, stated, buildError?_unwrap t, List.append_assoc]
  | .plain _, _ | .enum _, _ | .literal _, _ | .collection _ _, _ | .fixedTuple _, _
  | .mapping _ _, _ | .union _ _, _ | .presence _ _, _ | .record _ _, _ => rfl

theorem otherBuildError?_eq {ts : List TypeExpr} (cs : List Constraint)
    (ht : ts.filter (!·.isNothing) = [t]) : otherBuildError? ts cs = buildError? t cs := by
  induction ts with
  | nil => cases ht
  | cons u us ih =>
    rw [otherBuildError?]
    cases hu : u.isNothing with
    | true => exact ih (by rwa [List.filter_cons_of_neg (by simp [hu])] at ht)
    | false =>
      rw [List.filter_cons_of_pos (by simp [hu])] at ht
      rw [(List.cons.inj ht).1]
      rfl

theorem buildError?_stripOptional (cs : List Constraint) (ht : t.stripOptional.isUnion = false) :
    buildError? t cs = buildError? t.stripOptional cs := by
  cases t with
  | union style ts =>
    have hfilter := filter_eq_of_stripOptional ht
    have hcount : (ts.countP fun t => !t.isNothing) = 1 := by
      rw [List.countP_eq_length_filter, hfilter, List.length_singleton]
    rw [buildError?, if_pos hcount, otherBuildError?_eq cs hfilter]
  | _ => rfl

/-- The conversion to a declared type is built exactly if that to its base is. -/
theorem buildError?_eq_base (cs : List Constraint) (ht : t.base.isUnion = false) :
    buildError? t cs = buildError? t.base (t.baseConstraints ++ cs) := by
  rw [buildError?_unwrap, buildError?_stripOptional _ (isUnion_stripOptional_unwrap ht),
    buildError?_unwrap, base, baseConstraints, List.append_assoc]

/-! ## Types within types -/

theorem built_item {form : CollectionForm} {item : TypeExpr}
    (ht : buildError? (.collection form item) cs = none) : buildError? item [] = none := by
  rw [buildError?, Option.orElse_eq_none] at ht
  exact ht.1

theorem fieldBuildError?_cons (kind : RecordKind) (f : Field) (fields : List Field) :
    fieldBuildError? kind (f :: fields) =
      (buildError? (f.valueType kind) (f.constraints kind) <|> fieldBuildError? kind fields) := by
  obtain ⟨name, t, aliasName, validationAlias, fallback, limits⟩ := f
  cases kind with
  | model => cases t <;> rw [fieldBuildError?.eq_def] <;> rfl
  | dataclass | typedDict =>
    rw [fieldBuildError?.eq_def]
    rfl

theorem built_field {head : RecordHead} {fields : List Field}
    (ht : buildError? (.record head fields) cs = none) {f : Field} (hf : f ∈ fields) :
    buildError? (f.valueType head.kind) (f.constraints head.kind) = none := by
  rw [buildError?, Option.orElse_eq_none] at ht
  obtain ⟨hfields, -⟩ := ht
  induction fields with
  | nil => cases hf
  | cons g fields ih =>
    rw [fieldBuildError?_cons, Option.orElse_eq_none] at hfields
    rcases List.mem_cons.1 hf with rfl | hf
    · exact hfields.1
    · exact ih hf hfields.2

end TypedHeaders
