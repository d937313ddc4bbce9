import TypedHeaders.Proofs.Binding
import TypedHeaders.Proofs.Fields

/-!
# Parameters that are made from declarations

What the parameter that a declaration describes consists of. Its type is the
declared one below the outermost notes, which remain to be checked; how it is
read follows the base of the type (`Parameter.of_ofType`), and how the
fields of a record are read follows the bases of theirs
(`RecordDescriptor.describes_of_ofType`).

A cast value is *finished* by two conversions at most: to the type, and once more
to what remains without nothing, under the notes (`Parameter.finish_eq_ok`).
-/

namespace TypedHeaders

/-! ## Descriptors -/

/-- The descriptor of a field that can be bound. -/
theorem Field.describe_eq_ok {kind : RecordKind} {converts : Bool} {f : Field}
    {d : FieldDescriptor} (hd : f.describe kind converts = .ok d) :
    (f.valueType kind).base.IsPlainlyBound ∧ d.nilable = (f.valueType kind).isNilable ∧
      d.name = (f.boundAlias? kind).getD f.name := by
  obtain ⟨r, hr, hd⟩ := bind_eq_ok.1 hd
  rw [← base_declared, ← isNilable_declared]
  have hplain (hk : r.kind ≠ .record) := TypeExpr.isPlainlyBound_of_resolve hr hk
  have hnilable := TypeExpr.nilable_of_resolve hr
  split at hd
  · cases hd
  · cases hd
  · rename_i k tag nilable hk
    cases Except.ok.inj hd
    exact ⟨hplain fun h => hk h, hnilable, rfl⟩

/-- The descriptor describes the fields of a record type, in order. -/
abbrev RecordDescriptor.Describes (r : RecordDescriptor) (h : RecordHead) (converts : Bool)
    (fields : List Field) : Prop :=
  List.Forall₂ (fun f d => f.describe h.kind converts = .ok d) fields r.fields

/-- Only record types have descriptors. -/
theorem RecordDescriptor.describes_of_ofType {converts : Bool} {t : TypeExpr}
    {r : RecordDescriptor} (hr : RecordDescriptor.ofType converts t = .ok r) :
    ∃ h fields, t = .record h fields ∧ r.Describes h converts fields := by
  unfold ofType at hr
  split at hr
  · rename_i h fields
    obtain ⟨ds, hds, hr⟩ := bind_eq_ok.1 hr
    cases Except.ok.inj hr
    exact ⟨h, fields, rfl, (mapM_eq_ok.1 hds).imp fun _ _ => mapError_eq_ok.1⟩
  · cases hr

/-! ## Parameters -/

namespace Parameter

theorem base_target (t : TypeExpr) : (target t).base = t.base := by
  cases t <;> rfl

theorem isNilable_target (t : TypeExpr) : (target t).isNilable = t.isNilable := by
  cases t <;> rfl

/-- Markers state no constraints. -/
theorem constraintsOf_remaining (notes : List Note) :
    constraintsOf (remaining notes) = constraintsOf notes := by
  induction notes with
  | nil => rfl
  | cons n notes ih =>
    cases n with
    | marker m => exact ih
    | _ => exact congrArg (_ ++ ·) ih

/-- How a parameter with a type is read: from its own header if the base of the type is bound from
    one, and from the headers of fields if it is a record. -/
def Reads (t : TypeExpr) (reading : Reading) : Prop :=
  (t.base.IsPlainlyBound ∧ ∃ tag, reading = .scalar tag ∨ reading = .array tag) ∨
    ∃ converts r, reading = .record r ∧ RecordDescriptor.ofType converts t.base = .ok r

variable {convert : Bool} {name : String} {slot : Nat} {declared : TypeExpr}
  {given : Option Marker} {p : Parameter}

/-- The parts of the parameter that a declaration describes. -/
theorem of_ofType (hp : ofType convert name slot declared given = .ok p) :
    p.slot = slot ∧ p.type = target declared ∧ p.notes = remaining declared.notes ∧
      p.nilable = declared.isNilable ∧ Reads declared p.reading := by
  obtain ⟨r, hr, hp⟩ := bind_eq_ok.1 hp
  have hn := (TypeExpr.nilable_of_resolve hr).trans (isNilable_target declared)
  have hplain (hk : r.kind ≠ .record) : declared.base.IsPlainlyBound :=
    base_target declared ▸ TypeExpr.isPlainlyBound_of_resolve hr hk
  -- The kinds that have a tag are read from one header; all else has to be a record.
  dsimp only at hp
  split at hp
  · rename_i tag hk _
    cases Except.ok.inj hp
    exact ⟨rfl, rfl, rfl, hn, .inl ⟨hplain (by simp [hk]), tag, .inl rfl⟩⟩
  · rename_i tag hk _
    cases Except.ok.inj hp
    exact ⟨rfl, rfl, rfl, hn, .inl ⟨hplain (by simp [hk]), tag, .inr rfl⟩⟩
  · obtain ⟨d, hd, hp⟩ := bind_eq_ok.1 hp
    cases Except.ok.inj hp
    have hd' : RecordDescriptor.ofType _ (target declared).base = .ok d := hd
    rw [base_target] at hd'
    exact ⟨rfl, rfl, rfl, hn, .inr ⟨_, d, rfl, hd'⟩⟩

theorem build_eq_ok {slot : Int} {q : Parameter} :
    q.build slot = .ok p ↔ q = p ∧ 0 ≤ slot ∧ q.buildError? = none := by
  unfold build
  split
  · rename_i hslot
    exact iff_of_false nofun fun h => hslot.not_ge h.2.1
  · rename_i hslot
    cases q.buildError? with
    | some e => exact iff_of_false nofun fun h => nomatch h.2.2
    | none => simpa using fun _ => not_lt.1 hslot

/-- A parameter is declared exactly if it is what the declaration says, at a slot that is not
    negative, and its conversions are built. -/
theorem declare_eq_ok {slot : Int} :
    declare convert name slot declared given = .ok p ↔
      ofType convert name slot.toNat declared given = .ok p ∧ 0 ≤ slot ∧ p.buildError? = none := by
  unfold declare
  simp only [bind_eq_ok, mapError_eq_ok, build_eq_ok]
  constructor
  · rintro ⟨q, hq, rfl, hslot⟩
    exact ⟨hq, hslot⟩
  · rintro ⟨hp, hslot⟩
    exact ⟨p, hp, rfl, hslot⟩

theorem ofType_of_declare {slot : Int} (hp : declare convert name slot declared given = .ok p) :
    ofType convert name slot.toNat declared given = .ok p := (declare_eq_ok.1 hp).1

end Parameter

/-! ## Finishing a value -/

theorem TypeExpr.convert_eq_ok {t : TypeExpr} {v w : Value} :
    t.convert v = .ok w ↔ (TypedHeaders.convert t [] v).result = .ok w := Iff.rfl

/-- Nothing, and anything where there are no notes, passes the check; other values are converted
    under the notes. -/
theorem Restriction.check_eq_ok {r : Restriction} {header : String} {v w : Value}
    (hw : r.check header v = .ok w) :
    (r.notes = [] ∨ v = .absent) ∧ w = v ∨
      (r.notes ≠ [] ∧ v ≠ .absent) ∧
        (convert r.base (constraintsOf r.notes) v).result = .ok w := by
  unfold check at hw
  split at hw
  · rename_i hpass
    rw [Bool.or_eq_true, active, Bool.not_not, List.isEmpty_iff, Value.isAbsent_iff] at hpass
    exact .inl ⟨hpass, (Except.ok.inj hw).symm⟩
  · rename_i hpass
    rw [Bool.or_eq_true, active, Bool.not_not, List.isEmpty_iff, Value.isAbsent_iff,
      not_or] at hpass
    split at hw
    · rename_i x hx
      cases Except.ok.inj hw
      rw [TypeExpr.convert_eq_ok, convert_annotate, List.append_nil] at hx
      exact .inr ⟨hpass, hx⟩
    · cases hw
    · cases hw
    · cases hw

/-- A value is finished by a conversion to the type, and one under the notes if there are any. -/
theorem Parameter.finish_eq_ok {p : Parameter} {v w : Value} (hw : p.finish v = .ok w) :
    ∃ x, (TypedHeaders.convert p.type [] v).result = .ok x ∧
      ((p.notes = [] ∨ x = .absent) ∧ w = x ∨
        (p.notes ≠ [] ∧ x ≠ .absent) ∧
          (TypedHeaders.convert p.type.stripOptional (constraintsOf p.notes) x).result =
            .ok w) := by
  obtain ⟨x, hx, hw⟩ := bind_eq_ok.1 hw
  refine ⟨x, ?_, Restriction.check_eq_ok hw⟩
  unfold Parameter.convert at hx
  split at hx
  · rename_i y hy
    cases Except.ok.inj hx
    exact hy
  · cases hx
  · cases hx
  · cases hx

namespace Parameter

variable {p : Parameter} {h : Headers} {lenient : Bool} {v w : Value}

/-- Nothing stays nothing, if it may be there at all. -/
theorem eq_of_finish_absent (hn : p.type.isNilable = true) (hb : p.type.base.isNothing = false)
    (hw : p.finish .absent = .ok w) : w = .absent := by
  obtain ⟨x, hx, hw⟩ := finish_eq_ok hw
  rw [convert_absent _ hn hb] at hx
  obtain rfl := Converted.pure_result_eq_ok.1 hx
  rcases hw with ⟨-, hw⟩ | ⟨⟨-, hne⟩, -⟩
  · exact hw
  · exact absurd rfl hne

/-- Is a record that was converted converted again, from the dictionary that it is? -/
def convertsAgain (p : Parameter) (kind : RecordKind) : Bool :=
  kind = .typedDict && !p.notes.isEmpty

/-- A record that is finished has its fields as they are filled from the dictionary, or from the
    dictionary that came of that. -/
theorem cells_of_finish_dict {head : RecordHead} {fields : List Field} {entries : Entries Value}
    (ht : p.type.base = .record head fields) (hw : p.finish (.dict entries) = .ok w) :
    ∃ cells, FilledFrom head entries fields cells ∧
      (p.convertsAgain head.kind = false ∧ w = head.build (.ofFields cells) ∨
        p.convertsAgain head.kind = true ∧ ∃ cells',
          FilledFrom head (.ofFields cells) fields cells' ∧ w = head.build (.ofFields cells')) := by
  obtain ⟨x, hx, hw⟩ := finish_eq_ok hw
  obtain ⟨⟨cells, hcells, rfl⟩, -⟩ := (convert_dict_eq_ok ht).1 hx
  refine ⟨cells, hcells, ?_⟩
  rcases hw with ⟨hnotes | habsent, rfl⟩ | ⟨⟨hnotes, -⟩, hw⟩
  · exact .inl ⟨by rw [convertsAgain, hnotes, List.isEmpty_nil, Bool.not_true, Bool.and_false], rfl⟩
  · exact absurd habsent RecordHead.build_ne_absent
  · have ht' : p.type.stripOptional.base = .record head fields := by
      rw [TypeExpr.base_stripOptional (by rw [ht]; rfl), ht]
    -- An instance is recognised as one; a dictionary might be anything, and is converted.
    by_cases hk : head.kind = .typedDict
    · rw [RecordHead.build_of_typedDict hk] at hw
      exact .inr ⟨by simp [convertsAgain, hk, hnotes], ((convert_dict_eq_ok ht').1 hw).1⟩
    · exact .inl ⟨by simp [convertsAgain, hk], ((convert_instance_eq_ok ht' hk).1 hw).1⟩

/-- A record is finished as it was assembled, or it is nilable and absent as a whole. -/
theorem of_bind_record {r : RecordDescriptor} {tag : Option Tag} (hr : p.reading = .record r tag)
    (hn : p.nilable = p.type.isNilable) (hb : p.type.base.isNothing = false)
    (hv : p.bind h lenient = .ok v) :
    (p.type.isNilable = true ∧ v = .absent) ∨
      ∃ entries, r.assemble h p.nilable lenient = .ok (some entries) ∧
        p.finish (.dict entries) = .ok v := by
  rw [bind_of_record hr] at hv
  split at hv
  · cases hv
  · rename_i entries ha
    exact .inr ⟨entries, ha, hv⟩
  · rename_i ha
    -- Only a nilable record is absent as a whole.
    cases hnilable : p.nilable with
    | true =>
      rw [hn] at hnilable
      exact .inl ⟨hnilable, eq_of_finish_absent hnilable hb hv⟩
    | false =>
      rw [hnilable] at ha
      exact absurd ha assembleFields_required_ne_none

end Parameter

end TypedHeaders
