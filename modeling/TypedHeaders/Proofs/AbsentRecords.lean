import TypedHeaders.Proofs.Declaration
import TypedHeaders.Proofs.Populate

/-!
# Records of which a field is missing

A nilable record is nothing as a whole if a field of it is missing. But the fields
are read in the order of declaration, and the first one that has no value is the
*stop* of the record (`RecordDescriptor.stop?`): no field after it is looked at.
If the stop is missing, the record is nothing; if its text cannot be cast, the
record cannot be bound, whatever is missing after it.

* `populate_nilable_record`: a nilable record of which a required field has no
  header has a stop, no later than that field, and the stop decides;
* `populate_nilable_record_uncast`: so the record may fail although a required
  field is missing.
-/

namespace TypedHeaders

/-! ## The stop of a record -/

/-- No header has the name `key`, in any mixture of cases. -/
def Headers.Lacks (h : Headers) (key : String) : Prop := ∀ e ∈ h.entries, e.1 ≠ Text.lower key

/-- Is there a value for the field? -/
def FieldDescriptor.isRead (d : FieldDescriptor) (h : Headers) (lenient : Bool) : Bool :=
  match d.read h lenient with
  | .ok (some _) => true
  | _ => false

/-- The first field without a value. -/
def RecordDescriptor.stop? (r : RecordDescriptor) (h : Headers) (lenient : Bool) :
    Option FieldDescriptor :=
  r.fields.find? fun d => !d.isRead h lenient

section Stop

variable {h : Headers} {nilable lenient : Bool} {assembled : Entries Value}
  {ds : List FieldDescriptor} {d : FieldDescriptor} {r : RecordDescriptor} {e : BindError}

theorem Headers.values_of_lacks {key : String} (hl : h.Lacks key) :
    h.values key = .ok [] ∨ ∃ u, h.values key = .error u := by
  rw [values]
  split
  · exact .inr ⟨_, rfl⟩
  · refine .inl ?_
    rw [List.filter_eq_nil_iff.2 fun e he => by simpa using hl e he]
    rfl

/-- A required field has no value where its header is lacking. -/
theorem FieldDescriptor.isRead_of_lacks (hn : d.nilable = false) (hl : h.Lacks d.headerKey) :
    d.isRead h lenient = false := by
  rw [isRead, read_eq, Headers.find]
  rcases Headers.values_of_lacks hl with hv | ⟨u, hv⟩
  · rw [hv, hn]
    rfl
  · rw [hv]

/-- A field fails because its text cannot be cast, or because its header cannot be looked up. -/
theorem FieldDescriptor.error_of_read (he : d.read h lenient = .error e) :
    (∃ c, e = .uncast d.headerKey c) ∨ ∃ u, h.values d.headerKey = .error u ∧ e = .unencodable u := by
  rw [read_eq, Headers.find] at he
  cases hv : h.values d.headerKey with
  | error u =>
    rw [hv] at he
    exact .inr ⟨u, rfl, (Except.error.inj he).symm⟩
  | ok values =>
    rw [hv] at he
    split at he
    · rename_i hfound
      cases hfound
    · cases he
    · cases he
    · split at he
      · cases he
      · exact .inl ⟨_, (Except.error.inj he).symm⟩

/-- The stop decides what becomes of a record. -/
theorem assembleFields_of_stop (hd : (ds.find? fun d => !d.isRead h lenient) = some d) :
    assembleFields h nilable lenient assembled ds =
      match d.read h lenient with
      | .error e => .error e
      | .ok _ => if nilable then .ok none else .error (.missing d.headerKey) := by
  induction ds generalizing assembled with
  | nil => cases hd
  | cons g ds ih =>
    rw [assembleFields_cons]
    rw [List.find?_cons] at hd
    cases hg : g.read h lenient with
    | error e =>
      simp only [FieldDescriptor.isRead, hg, Bool.not_false, Option.some.injEq] at hd
      rw [← hd, hg]
    | ok found =>
      cases found with
      | some v =>
        simp only [FieldDescriptor.isRead, hg, Bool.not_true] at hd
        exact ih hd
      | none =>
        simp only [FieldDescriptor.isRead, hg, Bool.not_false, Option.some.injEq] at hd
        rw [← hd, hg]

end Stop

/-! ## Nilable records -/

/-- The parameter is read from the headers of the fields of a record, and may be nothing, as its
    type says. -/
structure Parameter.IsNilableRecord (p : Parameter) (r : RecordDescriptor) : Prop where
  reading : ∃ tag, p.reading = .record r tag
  nilable : p.nilable = true
  type : p.type.isNilable = true
  base : p.type.base.isNothing = false

namespace Parameter

variable {p : Parameter} {r : RecordDescriptor} {h : Headers} {lenient : Bool} {d : FieldDescriptor}

/-- A record parameter that is made from a declaration, and nilable, is a nilable record. -/
theorem isNilableRecord_of_declare {convert : Bool} {name : String} {slot : Int}
    {declared : TypeExpr} {given : Option Marker} {tag : Option Tag}
    (hp : declare convert name slot declared given = .ok p) (hr : p.reading = .record r tag)
    (hn : p.nilable = true) : p.IsNilableRecord r := by
  obtain ⟨-, htype, -, hnilable, hreads⟩ := of_ofType (ofType_of_declare hp)
  rw [← isNilable_target, ← htype] at hnilable
  rw [Reads, ← base_target, ← htype] at hreads
  refine ⟨⟨tag, hr⟩, hn, hnilable.symm.trans hn, ?_⟩
  rcases hreads with ⟨hplain, -⟩ | ⟨converts, _, -, hds⟩
  · exact TypeExpr.isNothing_of_isPlainlyBound hplain
  · obtain ⟨head, fields, hbase, -⟩ := RecordDescriptor.describes_of_ofType hds
    rw [hbase]
    rfl

/-- Where nothing may be there, it is finished as it is. -/
theorem finish_absent (hn : p.type.isNilable = true) (hb : p.type.base.isNothing = false) :
    p.finish .absent = .ok .absent := by
  have hconvert : p.convert .absent = .ok .absent := by
    rw [convert, TypeExpr.convert_eq_ok.2]
    rw [convert_absent [] hn hb, Converted.result_pure]
  rw [finish, hconvert]
  change p.restriction.check p.header .absent = _
  rw [Restriction.check, if_pos (by simp [Value.isAbsent])]

/-- The stop of a nilable record decides: if it is missing, the record is nothing. -/
theorem bind_of_stop (hp : p.IsNilableRecord r) (hd : r.stop? h lenient = some d) :
    p.bind h lenient =
      match d.read h lenient with
      | .error e => .error e
      | .ok _ => .ok .absent := by
  obtain ⟨tag, hr⟩ := hp.reading
  rw [bind_of_record hr, RecordDescriptor.assemble, assembleFields_of_stop hd, hp.nilable]
  cases d.read h lenient with
  | error e => rfl
  | ok found => exact finish_absent hp.type hp.base

end Parameter

namespace BindingSet

/-- A nilable record of which a required field has no header is bound up to its stop, once the
    parameters before it are bound: the first field without a value. If that field is missing, then
    nothing is written for the record, with its flag, and the other parameters follow; if its text
    cannot be cast, or its header not be looked up, then that is the error of the set. -/
theorem populate_nilable_record (s : BindingSet) {p : Parameter} {qs ps : List Parameter}
    (hs : s.params = qs ++ p :: ps) {r : RecordDescriptor} (hp : p.IsNilableRecord r)
    {h : Headers} {f : FieldDescriptor} (hf : f ∈ r.fields) (hn : f.nilable = false)
    (hl : h.Lacks f.headerKey) {lenient : Bool} {old feed : Feed}
    (hsize : s.feedSize ≤ old.length) (hqs : old.populate h lenient qs = (feed, none)) :
    ∃ before d after, r.fields = before ++ d :: after ∧ f ∉ before ∧
      (∀ g ∈ before, ∃ v, g.read h lenient = .ok (some v)) ∧
      (d.read h lenient = .ok none ∧
          s.populate h lenient old = (feed.write p.slot .absent).populate h lenient ps ∨
        ∃ e, d.read h lenient = .error e ∧ s.populate h lenient old = (feed, some e) ∧
          ((∃ c, e = .uncast d.headerKey c) ∨
            ∃ u, h.values d.headerKey = .error u ∧ e = .unencodable u)) := by
  have hread {g : FieldDescriptor} (hg : g.isRead h lenient = true) :
      ∃ v, g.read h lenient = .ok (some v) := by
    rw [FieldDescriptor.isRead] at hg
    split at hg
    · exact ⟨_, by assumption⟩
    · cases hg
  -- The required field has no value, so there is a first one without.
  have hnot : f.isRead h lenient = false := FieldDescriptor.isRead_of_lacks hn hl
  obtain ⟨d, hd⟩ : ∃ d, r.stop? h lenient = some d :=
    Option.isSome_iff_exists.1 (List.find?_isSome.2 ⟨f, hf, by rw [hnot]; rfl⟩)
  obtain ⟨hdread, before, after, hfields, hbefore⟩ := List.find?_eq_some_iff_append.1 hd
  have hbefore' : ∀ g ∈ before, g.isRead h lenient = true := fun g hg => by
    simpa using hbefore g hg
  refine ⟨before, d, after, hfields, fun hf' => ?_, fun g hg => hread (hbefore' g hg), ?_⟩
  · exact Bool.false_ne_true (hnot.symm.trans (hbefore' f hf'))
  · have hbind := Parameter.bind_of_stop hp hd
    rw [populate, hs, Feed.populate_append hqs]
    cases hdr : d.read h lenient with
    | error e =>
      rw [hdr] at hbind
      exact .inr ⟨e, rfl, Feed.populate_cons_of_error hbind, FieldDescriptor.error_of_read hdr⟩
    | ok found =>
      cases found with
      | some v => simp [FieldDescriptor.isRead, hdr] at hdread
      | none =>
        rw [hdr] at hbind
        have hslot : p.slot + 1 < feed.length := by
          have := slot_le_feedSize s (by rw [hs]; simp : p ∈ s.params)
          rw [Feed.length_of_populate hqs]
          omega
        exact .inl ⟨rfl, Feed.populate_cons_of_ok hbind hslot⟩

set_option maxRecDepth 20000 in
/-- The second field of a record has no header, so that the third one, whose text is no integer, is
    not looked at. -/
theorem populate_nilable_record_missing_before_uncast :
    let head : RecordHead := { kind := .model, name := "Span" }
    let declared : TypeExpr := .optional (.record head
      [{ name := "n", type := .optional (.plain .int) }, { name := "t", type := .plain .str },
       { name := "k", type := .plain .int }])
    let n : FieldDescriptor := ⟨"n", "n", .int, false, true⟩
    let t : FieldDescriptor := ⟨"t", "t", .string, false, false⟩
    let k : FieldDescriptor := ⟨"k", "k", .int, false, false⟩
    let p : Parameter := ⟨"r", "r", 0, .record ⟨[n, t, k]⟩, declared, true, []⟩
    let note : Parameter := ⟨"a", "a", 2, .scalar .string, .plain .str, false, []⟩
    let h : Headers := ⟨[("n", "5"), ("k", "abc"), ("a", "x")]⟩
    let old : Feed := [.int 7, .absent, .int 8, .absent]
    let feed : Feed := [.int 7, .absent, .text "x", .bool true]
    let s : BindingSet := { params := [note, p] }
    Parameter.declare true "r" 0 declared none = .ok p ∧ p.IsNilableRecord ⟨[n, t, k]⟩ ∧
      h.Lacks t.headerKey ∧ old.populate h false [note] = (feed, none) ∧
      ∃ before d after, [n, t, k] = before ++ d :: after ∧ t ∉ before ∧
        (∀ g ∈ before, ∃ v, g.read h false = .ok (some v)) ∧
        (d.read h false = .ok none ∧
            s.populate h false old = (feed.write p.slot .absent).populate h false [] ∨
          ∃ e, d.read h false = .error e ∧ s.populate h false old = (feed, some e) ∧
            ((∃ c, e = .uncast d.headerKey c) ∨
              ∃ u, h.values d.headerKey = .error u ∧ e = .unencodable u)) := by
  intro head declared n t k p note h old feed s
  have hp : Parameter.declare true "r" 0 declared none = .ok p := by
    subst declared head p n t k
    rfl
  have hr : p.IsNilableRecord ⟨[n, t, k]⟩ := Parameter.isNilableRecord_of_declare hp rfl rfl
  have hl : h.Lacks t.headerKey := by
    have hkey : Text.lower t.headerKey = "t" := by
      subst t
      rfl
    rw [Headers.Lacks, hkey]
    decide
  have hnote : note.bind h false = .ok (.text "x") := by
    subst note h
    rfl
  have hqs : old.populate h false [note] = (feed, none) := by
    rw [Feed.populate_cons_of_ok hnote (by decide)]
    rfl
  have hs : s.params = [note] ++ p :: [] := rfl
  have ht : t ∈ RecordDescriptor.fields ⟨[n, t, k]⟩ := by simp
  exact ⟨hp, hr, hl, hqs, populate_nilable_record s hs hr ht rfl hl (by decide) hqs⟩

set_option maxRecDepth 20000 in
/-- The second field of a nilable record has no header, but the text of the first one is no integer:
    the record is not nothing, and binding fails. -/
theorem populate_nilable_record_uncast :
    let head : RecordHead := { kind := .model, name := "Span" }
    let declared : TypeExpr := .optional (.record head
      [{ name := "n", type := .plain .int }, { name := "t", type := .plain .str }])
    let n : FieldDescriptor := ⟨"n", "n", .int, false, false⟩
    let t : FieldDescriptor := ⟨"t", "t", .string, false, false⟩
    let p : Parameter := ⟨"r", "r", 0, .record ⟨[n, t]⟩, declared, true, []⟩
    let h : Headers := ⟨[("n", "abc")]⟩
    Parameter.declare true "r" 0 declared none = .ok p ∧ p.IsNilableRecord ⟨[n, t]⟩ ∧
      t.nilable = false ∧ h.Lacks t.headerKey ∧
      populate { params := [p] } h true (Feed.empty 2) =
        (Feed.empty 2, some (.uncast "n" (.invalidInt "abc"))) ∧
      populate { params := [p] } h true (Feed.empty 2) ≠ ([.absent, .bool true], none) := by
  intro head declared n t p h
  have hp : Parameter.declare true "r" 0 declared none = .ok p := by
    subst declared head p n t
    rfl
  have hr : p.IsNilableRecord ⟨[n, t]⟩ := Parameter.isNilableRecord_of_declare hp rfl rfl
  have hl : h.Lacks t.headerKey := by
    have hkey : Text.lower t.headerKey = "t" := by
      subst t
      rfl
    rw [Headers.Lacks, hkey]
    decide
  have hn : h.values "n" = .ok ["abc"] := by
    subst h
    rfl
  have hbind : p.bind h true = .error (.uncast "n" (.invalidInt "abc")) := by
    rw [Parameter.bind_of_record rfl]
    simp only [RecordDescriptor.assemble, n, assembleFields_cons, FieldDescriptor.read_eq,
      Headers.find, hn]
    rfl
  have hnew : populate { params := [p] } h true (Feed.empty 2) =
      (Feed.empty 2, some (.uncast "n" (.invalidInt "abc"))) := Feed.populate_cons_of_error hbind
  refine ⟨hp, hr, rfl, hl, hnew, ?_⟩
  rw [hnew]
  exact fun h => by cases h

end BindingSet

end TypedHeaders
