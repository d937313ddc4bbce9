import TypedHeaders.Settings
import TypedHeaders.Proofs.Grammar
import TypedHeaders.Proofs.Layout

/-!
# How record types are described

The descriptor of a record type mirrors its declaration: it has one field for each
declared one, in the same order, with what the declared type resolves to
(`FieldDescriptor.Mirrors`). A field is named by the alias that a model gives it, or
else by its own name, with hyphens for underscores where these are converted
(`Field.IsNamed`). There is a descriptor if and only if headers can be bound to all of
the fields; otherwise the first one that they cannot be bound to is reported.

Whether underscores are converted is decided once for a parameter and for the fields of
its record: by its marker, else by what is said in the code, else by the settings
(`RecordDescriptor.ofType_mirrors`).
-/

namespace TypedHeaders

open TypeExpr

namespace Field

variable {kind : RecordKind} {converts : Bool} {f : Field} {d : FieldDescriptor}

/-! ## Fields that can be bound, and others -/

/-- A header can be bound to the field: its type resolves to a scalar or an array. -/
def IsBindable (f : Field) : Prop := ∃ r, f.type.resolve = .ok r ∧ r.kind ≠ .record

/-- Why the field cannot be bound: its type does not resolve, or it resolves to a record. -/
inductive IsRefused (kind : RecordKind) (f : Field) : DescriptorError → Prop
  | unsupported (hr : f.type.resolve = .error (.unsupported f.type)) :
    IsRefused kind f (.unsupported (f.declared kind))
  | nested {r : Resolution} (hr : f.type.resolve = .ok r) (hk : r.kind = .record) :
    IsRefused kind f .nestedRecord

/-- The key of the field in the assembled record, and its header. An alias counts in a model, if it
    is not empty, and it is both. -/
inductive IsNamed (kind : RecordKind) (converts : Bool) (f : Field) : String → String → Prop
  | alias {a : String} (hkind : kind = .model) (ha : f.aliasName = some a) (hne : a ≠ "") :
    IsNamed kind converts f a a
  | derived (ha : ∀ a, kind = .model → f.aliasName = some a → a = "") :
    IsNamed kind converts f f.name (headerKey converts f.name)

/-! ## The type that a record states for a field -/

theorem base_valueType (kind : RecordKind) (f : Field) : (f.valueType kind).base = f.type.base := by
  unfold valueType
  split
  · rename_i ht
    rw [ht]
    rfl
  · rfl

theorem isNilable_valueType (kind : RecordKind) (f : Field) :
    (f.valueType kind).isNilable = f.type.isNilable := by
  unfold valueType
  split
  · rename_i ht
    rw [ht]
    rfl
  · rfl

/-- The type that a record states for a field resolves as the one that the field is declared with,
    since the notes that are taken away or added do not count. -/
theorem resolve_declared {r : Resolution} :
    (f.declared kind).resolve = .ok r ↔ f.type.resolve = .ok r :=
  resolve_congr ((base_declared kind f).trans (base_valueType kind f))
    ((isNilable_declared kind f).trans (isNilable_valueType kind f))

/-! ## Describing a field -/

theorem isNamed (kind : RecordKind) (converts : Bool) (f : Field) :
    f.IsNamed kind converts ((f.boundAlias? kind).getD f.name)
      ((f.boundAlias? kind).getD (headerKey converts f.name)) := by
  cases ha : f.boundAlias? kind with
  | some a =>
    unfold boundAlias? at ha
    split at ha
    · rename_i hkind
      obtain ⟨hname, hne⟩ := Option.filter_eq_some_iff.1 ha
      exact .alias hkind hname (of_decide_eq_true hne)
    · cases ha
  | none =>
    refine .derived fun a hkind hname => ?_
    rw [boundAlias?, if_pos hkind, hname, Option.filter_some] at ha
    by_contra hne
    rw [if_pos (decide_eq_true hne)] at ha
    cases ha

end Field

/-- The descriptor is that of the field: it has the kind, the tag and the nilability that the type of
    the field resolves to, and its names. -/
structure FieldDescriptor.Mirrors (kind : RecordKind) (converts : Bool) (f : Field)
    (d : FieldDescriptor) : Prop where
  resolves : ∃ k, k ≠ .record ∧ f.type.resolve = .ok ⟨k, some d.tag, d.nilable⟩ ∧
    d.isArray = decide (k = .array)
  named : f.IsNamed kind converts d.name d.headerKey

namespace Field

variable {kind : RecordKind} {converts : Bool} {f : Field} {d : FieldDescriptor}

theorem mirrors_of_describe (hd : f.describe kind converts = .ok d) :
    d.Mirrors kind converts f := by
  obtain ⟨r, hr, hd⟩ := bind_eq_ok.1 hd
  split at hd
  · cases hd
  · cases hd
  · rename_i k tag nilable hk
    cases Except.ok.inj hd
    exact ⟨⟨k, fun h => hk h, resolve_declared.1 hr, rfl⟩, f.isNamed kind converts⟩

theorem exists_describe_iff : (∃ d, f.describe kind converts = .ok d) ↔ f.IsBindable := by
  constructor
  · rintro ⟨d, hd⟩
    obtain ⟨k, hk, hr, -⟩ := (mirrors_of_describe hd).resolves
    exact ⟨_, hr, hk⟩
  · rintro ⟨r, hr, hk⟩
    exact exists_describe (base_valueType kind f ▸ isPlainlyBound_of_resolve hr hk) converts

/-- A type that resolves without a tag is a record. -/
theorem kind_of_resolve {t : TypeExpr} {r : Resolution} (hr : t.resolve = .ok r)
    (htag : r.tag = none) : r.kind = .record := by
  rw [resolve_eq] at hr
  split at hr
  · cases hr; cases htag
  · cases hr; cases htag
  · split at hr
    · cases hr; rfl
    · cases hr

theorem isRefused_of_describe {e : DescriptorError} (he : f.describe kind converts = .error e) :
    f.IsRefused kind e := by
  rcases bind_eq_error.1 he with hr | ⟨r, hr, he⟩
  · rw [eq_unsupported_of_resolve hr]
    refine .unsupported ?_
    cases hr' : f.type.resolve with
    | ok r =>
      rw [resolve_declared.2 hr'] at hr
      cases hr
    | error e' => rw [eq_unsupported_of_resolve hr']
  · have hr := resolve_declared.1 hr
    split at he
    · cases Except.error.inj he
      exact .nested hr rfl
    · cases Except.error.inj he
      exact .nested hr (kind_of_resolve hr rfl)
    · cases he

end Field

/-! ## Descriptors of records -/

namespace RecordDescriptor

variable {converts : Bool} {head : RecordHead} {fields : List Field}

/-- A record type has a descriptor exactly if all of its fields can be bound. -/
theorem exists_ofType_iff :
    (∃ r, ofType converts (.record head fields) = .ok r) ↔ ∀ f ∈ fields, f.IsBindable := by
  constructor
  · rintro ⟨r, hr⟩ f hf
    obtain ⟨_, _, htype, hdescribes⟩ := describes_of_ofType hr
    cases htype
    obtain ⟨d, -, hd⟩ := exists_of_forall₂ hdescribes.flip hf
    exact Field.exists_describe_iff.1 ⟨d, hd⟩
  · intro hfields
    refine exists_ofType (fun f hf => ?_) converts
    obtain ⟨r, hr, hk⟩ := hfields f hf
    exact Field.base_valueType head.kind f ▸ isPlainlyBound_of_resolve hr hk

/-- The descriptor has the fields of the record type, in order. -/
theorem forall₂_of_ofType {r : RecordDescriptor}
    (hr : ofType converts (.record head fields) = .ok r) :
    List.Forall₂ (FieldDescriptor.Mirrors head.kind converts) fields r.fields := by
  obtain ⟨_, _, htype, hdescribes⟩ := describes_of_ofType hr
  cases htype
  exact hdescribes.imp fun _ _ => Field.mirrors_of_describe

/-- The first field that cannot be bound is reported, with the record. -/
theorem first_of_ofType_error {e : DescriptorError}
    (he : ofType converts (.record head fields) = .error e) :
    ∃ before f after cause, fields = before ++ f :: after ∧ (∀ g ∈ before, g.IsBindable) ∧
      f.IsRefused head.kind cause ∧ e = .ofField head.name f.name cause := by
  have he := (bind_eq_error.1 he).resolve_right fun ⟨_, _, hpure⟩ => by cases hpure
  obtain ⟨before, f, after, rfl, hbefore, hf⟩ := exists_first_error he
  cases hdescribe : f.describe head.kind converts with
  | ok d =>
    rw [hdescribe] at hf
    cases hf
  | error cause =>
    rw [hdescribe] at hf
    cases Except.error.inj hf
    refine ⟨before, f, after, cause, rfl, fun g hg => ?_,
      Field.isRefused_of_describe hdescribe, rfl⟩
    obtain ⟨d, hd⟩ := hbefore g hg
    exact Field.exists_describe_iff.1 ⟨d, mapError_eq_ok.1 hd⟩

end RecordDescriptor

/-! ## Records of parameters -/

namespace Parameter

variable {convert : Bool} {name : String} {slot : Nat} {declared : TypeExpr}
  {given : Option Marker}

/-- The marker that counts for a declaration: the one that is given, or the first one among the
    outermost notes; without any, one that says nothing. -/
def markerFor (given : Option Marker) (declared : TypeExpr) : Marker :=
  (given <|> markerOf? declared.notes).getD {}

theorem header_of_ofType {p : Parameter} (hp : ofType convert name slot declared given = .ok p) :
    p.header = (markerFor given declared).headerName convert name := by
  obtain ⟨r, -, hp⟩ := bind_eq_ok.1 hp
  dsimp only at hp
  split at hp
  · rw [← Except.ok.inj hp, markerFor]
  · rw [← Except.ok.inj hp, markerFor]
  · obtain ⟨d, -, hp⟩ := bind_eq_ok.1 hp
    rw [← Except.ok.inj hp, markerFor]

/-- A parameter of a record type is read by the descriptor of that type, and fails as it does. -/
theorem map_reading_ofType {head : RecordHead} {fields : List Field}
    (hbase : declared.base = .record head fields) :
    (ofType convert name slot declared given).map reading =
      (RecordDescriptor.ofType ((markerFor given declared).converts convert)
        (.record head fields)).map (Reading.record ·) := by
  have hbase : (target declared).base = .record head fields := (base_target declared).trans hbase
  have hrecord : (target declared).unwrap.stripOptional.unwrap = .record head fields := hbase
  rw [ofType, resolve_of_record hbase]
  change Except.map reading (do
    let r ← RecordDescriptor.ofType ((markerFor given declared).converts convert)
      (target declared).unwrap.stripOptional.unwrap
    _) = _
  rw [hrecord]
  cases RecordDescriptor.ofType ((markerFor given declared).converts convert)
    (.record head fields) <;> rfl

end Parameter

theorem Marker.converts_settings (m : Marker) (s : Settings) (said : Option Bool) :
    m.converts (s.converts said) = (m.convertUnderscores <|> said).getD s.convertUnderscores := by
  rw [Marker.converts, Settings.converts]
  cases m.convertUnderscores <;> rfl

/-- Without a name of its own, a marker leaves the name of the header to the parameter. -/
theorem Marker.headerName_eq_headerKey {m : Marker} (hm : m.name.getD "" = "") (convert : Bool)
    (name : String) : m.headerName convert name = headerKey (m.converts convert) name := by
  unfold headerName
  split
  · rename_i given hgiven
    rw [hgiven] at hm
    exact if_pos hm
  · rfl

/-- The descriptor of a record type mirrors its declaration, in whatever way underscores are
    treated. There is one exactly if all fields resolve to scalars or arrays; it describes each of
    them, in the order of declaration; and otherwise the error names the record and the first field
    that does not resolve or is a record itself.

    A parameter is read by the descriptor of its record, and its own header, if it is not given, and
    those of the fields are derived alike: as its marker says, or else the code, or else the
    settings. -/
theorem RecordDescriptor.ofType_mirrors (s : Settings) (said : Option Bool) (head : RecordHead)
    (fields : List Field) :
    let made := RecordDescriptor.ofType (s.converts said) (.record head fields)
    ((∃ r, made = .ok r) ↔ ∀ f ∈ fields, f.IsBindable) ∧
    (∀ r, made = .ok r →
      List.Forall₂ (FieldDescriptor.Mirrors head.kind (s.converts said)) fields r.fields) ∧
    (∀ e, made = .error e → ∃ before f after cause, fields = before ++ f :: after ∧
      (∀ g ∈ before, g.IsBindable) ∧ f.IsRefused head.kind cause ∧
      e = .ofField head.name f.name cause ∧
      e.message = head.name ++ "." ++ f.name ++ ": " ++ cause.message) ∧
    ∀ name slot declared given, declared.base = .record head fields →
      let marker := Parameter.markerFor given declared
      let converts := (marker.convertUnderscores <|> said).getD s.convertUnderscores
      let param := Parameter.ofType (s.converts said) name slot declared given
      param.map Parameter.reading =
        (RecordDescriptor.ofType converts (.record head fields)).map (Reading.record ·) ∧
      ∀ p, param = .ok p → marker.name.getD "" = "" → p.header = headerKey converts name := by
  intro made
  refine ⟨exists_ofType_iff, fun r hr => forall₂_of_ofType hr, fun e he => ?_, ?_⟩
  · obtain ⟨before, f, after, cause, hfields, hbefore, hf, rfl⟩ := first_of_ofType_error he
    exact ⟨before, f, after, cause, hfields, hbefore, hf, rfl, rfl⟩
  · intro name slot declared given hbase marker converts param
    have hconverts : marker.converts (s.converts said) = converts := marker.converts_settings s said
    refine ⟨?_, fun p hp hname => ?_⟩
    · rw [← hconverts]
      exact Parameter.map_reading_ofType hbase
    · rw [Parameter.header_of_ofType hp, Marker.headerName_eq_headerKey hname, ← hconverts]

/-- Underscores are kept where the code says so, but not in an alias or where the marker says
    otherwise; a field that is a record is reported, though another one after it cannot be bound
    either. -/
theorem RecordDescriptor.ofType_mirrors_span :
    let head : RecordHead := { kind := .model, name := "Span" }
    let span : Field := { name := "span_id", type := .optional (.plain .int) }
    let tags : Field :=
      { name := "tags", type := .collection .list (.plain .str), aliasName := some "X_Tag" }
    let inner : Field := { name := "inner", type := .record head [span, tags] }
    let other : Field := { name := "other", type := .plain .dict }
    let declared := (TypeExpr.record head [span, tags]).annotate
      [.marker { convertUnderscores := some true }]
    (∃ r, ofType (Settings.converts {} (some false)) (.record head [span, tags]) = .ok r ∧
      List.Forall₂ (FieldDescriptor.Mirrors .model false) [span, tags] r.fields ∧
      r.keys = ["span_id", "X_Tag"]) ∧
    ofType (Settings.converts {} (some false)) (.record head [span, inner, other]) =
      .error (.ofField "Span" "inner" .nestedRecord) ∧
    declared.base = .record head [span, tags] ∧
    ∃ p, Parameter.ofType (Settings.converts {} (some false)) "trace_span" 0 declared none = .ok p ∧
      p.header = "trace-span" ∧ p.reading.record?.map keys = some ["span-id", "X_Tag"] := by
  intro head span tags inner other declared
  have hmirrors := RecordDescriptor.ofType_mirrors {} (some false) head [span, tags]
  have hparam := hmirrors.2.2.2 "trace_span" 0 declared none rfl
  exact ⟨⟨_, rfl, hmirrors.2.1 _ rfl, rfl⟩, rfl, rfl, _, rfl, hparam.2 _ rfl rfl, by decide⟩

end TypedHeaders
