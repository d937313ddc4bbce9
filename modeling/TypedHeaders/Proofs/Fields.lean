import TypedHeaders.Record
import TypedHeaders.Proofs.Checks
import TypedHeaders.Proofs.Resolution

/-!
# Converting records field by field

A record is converted from a dictionary by *filling* each of its declared fields
(`Field.fill`): from the value under the key of the field, if there is one, and
with the fallback otherwise. No field has an influence on another
(`convertFields_result_eq_ok`).
-/

namespace TypedHeaders

namespace Field

/-- The type to which the value of a field is converted. -/
def valueType (kind : RecordKind) (f : Field) : TypeExpr :=
  match kind, f.type with
  | .model, .annotated base _ => base
  | _, t => t

/-- The constraints on the value of a field, beside those that its type states. -/
def constraints (kind : RecordKind) (f : Field) : List Constraint :=
  let own := (f.limits.map Limits.constraints).getD []
  match kind, f.type with
  | .model, .annotated _ notes => own ++ constraintsOf notes
  | _, _ => own

/-- Converts a value to one of the field. -/
def convert (kind : RecordKind) (f : Field) (v : Value) : Converted Value :=
  TypedHeaders.convert (f.valueType kind) (f.constraints kind) v

/-- The field as it is filled from the entries of a dictionary. -/
def fill (h : RecordHead) (entries : Entries Value) (f : Field) : Converted ConvertedField :=
  match entries.lookup f.key with
  | some v => Converted.inside f.key (do return ⟨f.name, some (← f.convert h.kind v), true⟩)
  | none =>
    if f.fallback.isSome ∨ h.mayOmit f.type then pure ⟨f.name, f.fallback, false⟩
    else Converted.inside f.key (.refuse .required)

/-! ## The type of a field -/

/-- The type that a record states for a field and the type that its value is converted to differ in
    their notes only. -/
theorem declared_valueType (kind : RecordKind) (f : Field) :
    (f.declared kind).base = (f.valueType kind).base ∧
      (f.declared kind).isNilable = (f.valueType kind).isNilable := by
  obtain ⟨name, t, aliasName, validationAlias, fallback, limits⟩ := f
  cases kind with
  | model => cases t <;> exact ⟨rfl, rfl⟩
  | dataclass | typedDict =>
    cases limits with
    | some l => simp [declared, valueType]
    | none => exact ⟨rfl, rfl⟩

/-- A field is bound by the base of the type that its value is converted to. -/
theorem base_declared (kind : RecordKind) (f : Field) :
    (f.declared kind).base = (f.valueType kind).base := (declared_valueType kind f).1

theorem isNilable_declared (kind : RecordKind) (f : Field) :
    (f.declared kind).isNilable = (f.valueType kind).isNilable := (declared_valueType kind f).2

/-! ## Filling a field -/

variable {h : RecordHead} {entries : Entries Value} {f : Field} {c : ConvertedField}

/-- A field with a value under its key holds what the value is converted to. -/
theorem fill_of_some {v : Value} (hv : entries.lookup f.key = some v) :
    (f.fill h entries).result = .ok c ↔
      ∃ w, (f.convert h.kind v).result = .ok w ∧ c = ⟨f.name, some w, true⟩ := by
  simp only [fill, hv, Converted.inside_result_eq_ok, Converted.bind_result_eq_ok,
    Converted.pure_result_eq_ok]
  exact exists_congr fun w => and_congr_right fun _ => eq_comm

/-- A field without a value under its key holds its fallback, or may be left out. -/
theorem fill_of_none (hv : entries.lookup f.key = none) :
    (f.fill h entries).result = .ok c ↔
      (f.fallback.isSome = true ∨ h.mayOmit f.type = true) ∧ c = ⟨f.name, f.fallback, false⟩ := by
  simp only [fill, hv]
  split
  · rename_i hmay
    rw [Converted.pure_result_eq_ok, eq_comm]
    exact (and_iff_right hmay).symm
  · rename_i hmay
    rw [Converted.inside_result_eq_ok]
    exact ⟨fun hr => absurd hr Converted.refuse_result_ne_ok, fun hr => absurd hr.1 hmay⟩

theorem name_of_fill (hc : (f.fill h entries).result = .ok c) : c.name = f.name := by
  cases hv : entries.lookup f.key with
  | some v =>
    obtain ⟨w, -, rfl⟩ := (fill_of_some hv).1 hc
    rfl
  | none =>
    obtain ⟨-, rfl⟩ := (fill_of_none hv).1 hc
    rfl

end Field

/-! ## Converting a record -/

variable {h : RecordHead} {entries : Entries Value} {fields : List Field}

theorem convertFields_cons {f : Field} :
    convertFields h entries (f :: fields) = (do
      let (c, cs) ← Converted.both (f.fill h entries) (convertFields h entries fields)
      return c :: cs) := by
  obtain ⟨kind, recordName, total, declaration⟩ := h
  obtain ⟨name, t, aliasName, validationAlias, fallback, limits⟩ := f
  rw [convertFields]
  cases kind <;> cases t <;> rfl

/-- The fields are filled from the entries of a dictionary, each by itself. -/
abbrev FilledFrom (h : RecordHead) (entries : Entries Value) (fields : List Field)
    (cells : List ConvertedField) : Prop :=
  List.Forall₂ (fun f c => (f.fill h entries).result = .ok c) fields cells

/-- The fields of a record are filled independently of each other. -/
theorem convertFields_result_eq_ok {cells : List ConvertedField} :
    (convertFields h entries fields).result = .ok cells ↔ FilledFrom h entries fields cells := by
  rw [FilledFrom]
  induction fields generalizing cells with
  | nil =>
    rw [convertFields, Converted.pure_result_eq_ok, List.forall₂_nil_left_iff, eq_comm]
  | cons f fields ih =>
    rw [convertFields_cons, Converted.bind_result_eq_ok, List.forall₂_cons_left_iff]
    simp only [Converted.both_result_eq_ok, ih, Converted.pure_result_eq_ok, Prod.exists, and_assoc]
    refine exists_congr fun c => ?_
    simp only [eq_comm]

namespace RecordHead

theorem build_of_typedDict (hk : h.kind = .typedDict) (stored : Entries Value) :
    h.build stored = .dict stored := by
  rw [build, hk]

theorem build_of_instance (hk : h.kind ≠ .typedDict) (stored : Entries Value) :
    h.build stored = .record h stored := by
  rw [build]
  cases hkind : h.kind with
  | typedDict => exact absurd hkind hk
  | _ => rfl

theorem build_ne_absent {stored : Entries Value} : h.build stored ≠ .absent := by
  by_cases hk : h.kind = .typedDict
  · rw [build_of_typedDict hk]
    exact fun h => by cases h
  · rw [build_of_instance hk]
    exact fun h => by cases h

/-- An instance of a record type counts as no text. -/
theorem toText_build_ne_ok (stored : Entries Value) (s : String) :
    (Scalar.toText (h.build stored)).result ≠ .ok s := by
  rw [build]
  split <;> exact Converted.refuse_result_ne_ok

end RecordHead

section Convert

variable {t : TypeExpr} {cs : List Constraint} {stored : Entries Value} {w : Value}

/-- A dictionary is converted to the instance that has its fields as they are filled, which is checked
    after it. -/
theorem convert_dict_eq_ok (ht : t.base = .record h fields) :
    (convert t cs (.dict entries)).result = .ok w ↔
      (∃ cells, FilledFrom h entries fields cells ∧ w = h.build (.ofFields cells)) ∧
        Constraint.checkAll t.base.schema (t.baseConstraints ++ cs) w = .ok w := by
  rw [convert_eq_base_of_present cs (by rw [ht]; rfl) rfl, ht, convert,
    TypeExpr.within_result_of_checks_none fun _ => rfl]
  constructor
  · rintro ⟨v, hv, hw⟩
    obtain ⟨cells, hcells, hv⟩ := Converted.bind_result_eq_ok.1 hv
    obtain rfl : h.build (.ofFields cells) = v := Except.ok.inj hv
    obtain rfl := Constraint.eq_of_checkAll_of_not_text (h.toText_build_ne_ok _) hw
    exact ⟨⟨cells, convertFields_result_eq_ok.1 hcells, rfl⟩, hw⟩
  · rintro ⟨⟨cells, hcells, rfl⟩, hw⟩
    exact ⟨_, Converted.bind_result_eq_ok.2 ⟨cells, convertFields_result_eq_ok.2 hcells, rfl⟩, hw⟩

/-- An instance stays as it is, and is checked. -/
theorem convert_instance_eq_ok (ht : t.base = .record h fields) (hk : h.kind ≠ .typedDict) :
    (convert t cs (h.build stored)).result = .ok w ↔
      w = h.build stored ∧ Constraint.checkAll t.base.schema (t.baseConstraints ++ cs) w = .ok w := by
  have hinstance : h.isInstance (.record h stored) = true := by simp [RecordHead.isInstance, hk]
  have htext := h.toText_build_ne_ok stored
  rw [RecordHead.build_of_instance hk] at htext ⊢
  rw [convert_eq_base_of_present cs (by rw [ht]; rfl) rfl, ht, convert,
    TypeExpr.within_result_of_checks_none fun _ => rfl, if_pos hinstance]
  · constructor
    · rintro ⟨v, hv, hw⟩
      obtain rfl := Converted.pure_result_eq_ok.1 hv
      obtain rfl := Constraint.eq_of_checkAll_of_not_text htext hw
      exact ⟨rfl, hw⟩
    · rintro ⟨rfl, hw⟩
      exact ⟨_, rfl, hw⟩
  · intro _ h
    cases h

end Convert

end TypedHeaders
