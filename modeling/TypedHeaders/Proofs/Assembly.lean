import TypedHeaders.Proofs.AbsentRecords
import TypedHeaders.Proofs.RoundTrip

/-!
# Assembling records

What becomes of a record is decided by the first of its fields that *stops* it
(`FieldDescriptor.Stops`): a field that is missing, one whose texts cannot be
cast, or one whose header cannot be looked up because its key is not Latin-1.
A field that does not stop the record *gives* a value (`FieldDescriptor.Gives`):
nothing if the field is nilable and its header empty, or absent under the lenient
policy; otherwise what its texts are cast to.

* `FieldDescriptor.isRead_eq_false_iff`: a field is read, or it stops the record;
* `assembleFields_of_gives`: fields that all give a value are assembled under
  their names, in order;
* `assemble_of_first_stop`: a record without a stop is assembled whole, and one
  with a stop comes to what its first stop says, whatever the fields after it;
* `assemble_unencodable_key`: a key that is not Latin-1 makes the record fail even
  where no header has that name.
-/

namespace TypedHeaders

/-! ## What a field comes to -/

namespace FieldDescriptor

/-- The field is nothing: it is nilable, and its header is empty, or absent under the lenient
    policy. -/
def IsNothing (f : FieldDescriptor) (h : Headers) (lenient : Bool) : Prop :=
  f.nilable = true ∧
    (h.values f.headerKey = .ok [] ∧ lenient = true ∨ h.values f.headerKey = .ok [""])

/-- The field is missing: its header is absent or empty, and it is not nothing. -/
def IsMissing (f : FieldDescriptor) (h : Headers) (lenient : Bool) : Prop :=
  (h.values f.headerKey = .ok [] ∨ h.values f.headerKey = .ok [""]) ∧ ¬f.IsNothing h lenient

/-- The field's header is neither absent nor empty, and its texts come to `cast`: all of them for an
    array, the first one for anything else. -/
def Casts (f : FieldDescriptor) (h : Headers) (cast : Except CastError Value) : Prop :=
  ∃ first rest, h.values f.headerKey = .ok (first :: rest) ∧ first :: rest ≠ [""] ∧
    castTexts f.tag f.isArray first rest = cast

/-- The field gives a value to the record. -/
def Gives (f : FieldDescriptor) (h : Headers) (lenient : Bool) (v : Value) : Prop :=
  f.IsNothing h lenient ∧ v = .absent ∨ f.Casts h (.ok v)

/-- The field stops the record. -/
def Stops (f : FieldDescriptor) (h : Headers) (lenient : Bool) : Prop :=
  f.IsMissing h lenient ∨ (∃ e, f.Casts h (.error e)) ∨ ∃ u, h.values f.headerKey = .error u

end FieldDescriptor

section Reading

variable {f : FieldDescriptor} {h : Headers} {lenient : Bool} {v : Value}

namespace FieldDescriptor

theorem read_of_isNothing (hf : f.IsNothing h lenient) : f.read h lenient = .ok (some .absent) := by
  obtain ⟨hn, ⟨hv, hl⟩ | hv⟩ := hf
  · rw [read_eq, Headers.find_of_values hv, Finding.ofValues_eq_nothing.2 ⟨hn, .inl ⟨rfl, hl⟩⟩]
  · rw [read_eq, Headers.find_of_values hv, Finding.ofValues_eq_nothing.2 ⟨hn, .inr rfl⟩]

theorem read_of_isMissing (hf : f.IsMissing h lenient) : f.read h lenient = .ok none := by
  obtain ⟨hv | hv, hnot⟩ := hf
  · have hn : ¬(f.nilable = true ∧ lenient = true) := fun hn => hnot ⟨hn.1, .inl ⟨hv, hn.2⟩⟩
    rw [read_eq, Headers.find_of_values hv, Finding.ofValues_eq_missing.2 (.inl ⟨rfl, hn⟩)]
  · have hn : ¬f.nilable = true := fun hn => hnot ⟨hn, .inr hv⟩
    rw [read_eq, Headers.find_of_values hv, Finding.ofValues_eq_missing.2 (.inr ⟨rfl, hn⟩)]

theorem read_of_cast (hf : f.Casts h (.ok v)) : f.read h lenient = .ok (some v) := by
  obtain ⟨first, rest, hv, hfilled, hcast⟩ := hf
  rw [read_eq, Headers.find_of_values hv, Finding.ofValues_of_filled hfilled]
  simp only [hcast]

theorem read_of_uncast {e : CastError} (hf : f.Casts h (.error e)) :
    f.read h lenient = .error (.uncast f.headerKey e) := by
  obtain ⟨first, rest, hv, hfilled, hcast⟩ := hf
  rw [read_eq, Headers.find_of_values hv, Finding.ofValues_of_filled hfilled]
  simp only [hcast]

theorem read_of_gives (hf : f.Gives h lenient v) : f.read h lenient = .ok (some v) := by
  obtain ⟨hf, rfl⟩ | hf := hf
  · exact read_of_isNothing hf
  · exact read_of_cast hf

theorem read_of_unencodable {u : Text.Unencodable} (hu : h.values f.headerKey = .error u) :
    f.read h lenient = .error (.unencodable u) := by
  rw [read_eq, Headers.find, hu]

/-- A field gives a value, or it stops the record. -/
theorem gives_or_stops (f : FieldDescriptor) (h : Headers) (lenient : Bool) :
    (∃ v, f.Gives h lenient v) ∨ f.Stops h lenient := by
  cases hv : h.values f.headerKey with
  | error u => exact .inr (.inr (.inr ⟨u, hv⟩))
  | ok values =>
    by_cases hempty : values = [] ∨ values = [""]
    · by_cases hf : f.IsNothing h lenient
      · exact .inl ⟨.absent, .inl ⟨hf, rfl⟩⟩
      · refine .inr (.inl ⟨?_, hf⟩)
        rcases hempty with rfl | rfl
        · exact .inl hv
        · exact .inr hv
    · obtain ⟨first, rest, rfl⟩ := List.exists_cons_of_ne_nil fun he => hempty (.inl he)
      have hcasts : f.Casts h (castTexts f.tag f.isArray first rest) :=
        ⟨first, rest, hv, fun he => hempty (.inr he), rfl⟩
      cases hcast : castTexts f.tag f.isArray first rest with
      | ok v => exact .inl ⟨v, .inr (hcast ▸ hcasts)⟩
      | error e => exact .inr (.inr (.inl ⟨e, hcast ▸ hcasts⟩))

/-- The fields that stop a record are those that are not read. -/
theorem isRead_eq_false_iff : f.isRead h lenient = false ↔ f.Stops h lenient := by
  constructor
  · intro hread
    refine (gives_or_stops f h lenient).resolve_left fun ⟨v, hv⟩ => ?_
    rw [isRead, read_of_gives hv] at hread
    cases hread
  · rintro (hf | ⟨e, hf⟩ | ⟨u, hu⟩)
    · rw [isRead, read_of_isMissing hf]
    · rw [isRead, read_of_uncast hf]
    · rw [isRead, read_of_unencodable hu]

end FieldDescriptor

end Reading

/-! ## What a record comes to -/

section Assembling

variable {h : Headers} {nilable lenient : Bool} {fs : List FieldDescriptor}
  {assembled : Entries Value}

/-- Fields of different names that all give a value are added to what is assembled so far, each
    under its name, in their order. -/
theorem assembleFields_of_gives (hnames : (assembled.map Prod.fst ++ fs.map (·.name)).Nodup)
    (hfs : ∀ f ∈ fs, ∃ v, f.Gives h lenient v) :
    ∃ entries, assembleFields h nilable lenient assembled fs = .ok (some (assembled ++ entries)) ∧
      List.Forall₂ (fun f e => e.1 = f.name ∧ f.Gives h lenient e.2) fs entries := by
  induction fs generalizing assembled with
  | nil => exact ⟨[], by rw [assembleFields, List.append_nil], .nil⟩
  | cons f fs ih =>
    obtain ⟨v, hv⟩ := hfs f List.mem_cons_self
    have hnew : f.name ∉ assembled.map Prod.fst := fun hmem =>
      (List.nodup_append.1 hnames).2.2 _ hmem _ (by simp) rfl
    have hnames' : ((assembled ++ [(f.name, v)]).map Prod.fst ++ fs.map (·.name)).Nodup := by
      simpa using hnames
    obtain ⟨entries, hentries, hgives⟩ :=
      ih hnames' fun g hg => hfs g (List.mem_cons_of_mem f hg)
    refine ⟨(f.name, v) :: entries, ?_, .cons ⟨rfl, hv⟩ hgives⟩
    rw [assembleFields_cons, FieldDescriptor.read_of_gives hv]
    dsimp only
    rw [Entries.put_of_not_mem hnew, hentries, List.append_assoc, List.singleton_append]

/-- A field that is assembled does not stop the record. -/
theorem not_stops_of_assembleFields {entries : Entries Value}
    (hentries : assembleFields h nilable lenient assembled fs = .ok (some entries)) :
    ∀ f ∈ fs, ¬f.Stops h lenient := by
  induction fs generalizing assembled with
  | nil => simp
  | cons f fs ih =>
    obtain ⟨v, hv, hentries⟩ := assembleFields_cons_eq_some.1 hentries
    intro g hg
    rcases List.mem_cons.1 hg with rfl | hg
    · rw [← FieldDescriptor.isRead_eq_false_iff, FieldDescriptor.isRead, hv]
      simp
    · exact ih hentries g hg

end Assembling

namespace RecordDescriptor

/-- A record whose fields have different names is assembled if and only if no field stops it, and
    then its entries are the names of the fields, in order, each with what its field gives. If a
    field stops it and none before does, then that field decides, whatever is after it: texts that
    cannot be cast are an error even where the record is nilable, a missing field makes a nilable
    record nothing and is an error otherwise, and so is a key that is not Latin-1. -/
theorem assemble_of_first_stop (r : RecordDescriptor) (h : Headers) (nilable lenient : Bool)
    (hnames : (r.fields.map (·.name)).Nodup) :
    ((∃ entries, r.assemble h nilable lenient = .ok (some entries)) ↔
      ∀ f ∈ r.fields, ¬f.Stops h lenient) ∧
    (∀ entries, r.assemble h nilable lenient = .ok (some entries) →
      List.Forall₂ (fun f e => e.1 = f.name ∧ f.Gives h lenient e.2) r.fields entries) ∧
    ∀ before f after, r.fields = before ++ f :: after → (∀ g ∈ before, ¬g.Stops h lenient) →
      (∀ e, f.Casts h (.error e) →
        r.assemble h nilable lenient = .error (.uncast f.headerKey e)) ∧
      (f.IsMissing h lenient →
        r.assemble h nilable lenient =
          if nilable then .ok none else .error (.missing f.headerKey)) ∧
      ∀ u, h.values f.headerKey = .error u →
        r.assemble h nilable lenient = .error (.unencodable u) := by
  have hwhole (hfs : ∀ f ∈ r.fields, ¬f.Stops h lenient) :
      ∃ entries, r.assemble h nilable lenient = .ok (some entries) ∧
        List.Forall₂ (fun f e => e.1 = f.name ∧ f.Gives h lenient e.2) r.fields entries := by
    have hnames' : (([] : Entries Value).map Prod.fst ++ r.fields.map (·.name)).Nodup := hnames
    exact assembleFields_of_gives hnames' fun f hf =>
      (f.gives_or_stops h lenient).resolve_right (hfs f hf)
  refine ⟨⟨fun h => h.elim fun _ => not_stops_of_assembleFields, fun hfs => ?_⟩,
    fun entries hentries => ?_, fun before f after hfields hbefore => ?_⟩
  · obtain ⟨entries, hentries, -⟩ := hwhole hfs
    exact ⟨entries, hentries⟩
  · obtain ⟨entries', hentries', hgives⟩ := hwhole (not_stops_of_assembleFields hentries)
    rw [hentries', Except.ok.injEq, Option.some.injEq] at hentries
    exact hentries ▸ hgives
  · -- The first field that stops the record is the first one without a value.
    have hfirst (hf : f.Stops h lenient) :
        (r.fields.find? fun d => !d.isRead h lenient) = some f := by
      refine List.find?_eq_some_iff_append.2 ⟨?_, before, after, hfields, fun g hg => ?_⟩
      · rw [FieldDescriptor.isRead_eq_false_iff.2 hf, Bool.not_false]
      · rw [Bool.not_not, ← Bool.not_eq_false, FieldDescriptor.isRead_eq_false_iff]
        exact hbefore g hg
    rw [assemble]
    refine ⟨fun e he => ?_, fun hf => ?_, fun u hu => ?_⟩
    · rw [assembleFields_of_stop (hfirst (.inr (.inl ⟨e, he⟩))), FieldDescriptor.read_of_uncast he]
    · rw [assembleFields_of_stop (hfirst (.inl hf)), FieldDescriptor.read_of_isMissing hf]
    · rw [assembleFields_of_stop (hfirst (.inr (.inr ⟨u, hu⟩))),
        FieldDescriptor.read_of_unencodable hu]

set_option maxRecDepth 20000 in
/-- A nilable field is empty and an array is there; then a field is missing before one that is no
    integer, and the other way round. -/
theorem assemble_of_first_stop_missing_or_uncast :
    let n : FieldDescriptor := ⟨"n", "n", .int, false, true⟩
    let xs : FieldDescriptor := ⟨"xs", "xs", .int, true, false⟩
    let t : FieldDescriptor := ⟨"t", "t", .string, false, false⟩
    let k : FieldDescriptor := ⟨"k", "k", .int, false, false⟩
    let h : Headers := ⟨[("xs", "1"), ("n", ""), ("k", "abc"), ("xs", "2")]⟩
    (∃ entries, assemble ⟨[n, xs]⟩ h false false = .ok (some entries) ∧
      List.Forall₂ (fun f e => e.1 = f.name ∧ f.Gives h false e.2) [n, xs] entries) ∧
    assemble ⟨[n, xs, t, k]⟩ h true false = .ok none ∧
    assemble ⟨[n, xs, t, k]⟩ h false false = .error (.missing "t") ∧
    assemble ⟨[n, xs, k, t]⟩ h true false = .error (.uncast "k" (.invalidInt "abc")) := by
  intro n xs t k h
  have hn : n.Gives h false .absent := by
    subst n h
    exact .inl ⟨⟨rfl, .inr (by rfl)⟩, rfl⟩
  have hxs : xs.Gives h false (.collection .list [.int 1, .int 2]) := by
    subst xs h
    exact .inr ⟨"1", ["2"], by rfl, by decide, by rfl⟩
  have ht : t.IsMissing h false := by
    subst t h
    exact ⟨.inl (by rfl), fun ht => by cases ht.1⟩
  have hk : k.Casts h (.error (.invalidInt "abc")) := by
    subst k h
    exact ⟨"abc", [], by rfl, by decide, by rfl⟩
  have hbefore : ∀ g ∈ [n, xs], ¬g.Stops h false := by
    intro g hg hstop
    rw [← FieldDescriptor.isRead_eq_false_iff, FieldDescriptor.isRead] at hstop
    rcases List.mem_pair.1 hg with rfl | rfl
    · rw [FieldDescriptor.read_of_gives hn] at hstop
      cases hstop
    · rw [FieldDescriptor.read_of_gives hxs] at hstop
      cases hstop
  obtain ⟨hwhole, hentries, -⟩ := assemble_of_first_stop ⟨[n, xs]⟩ h false false (by decide)
  obtain ⟨entries, hassemble⟩ := hwhole.2 hbefore
  have hmissing (nilable : Bool) :=
    ((assemble_of_first_stop ⟨[n, xs, t, k]⟩ h nilable false (by decide)).2.2
      [n, xs] t [k] rfl hbefore).2.1 ht
  have huncast := ((assemble_of_first_stop ⟨[n, xs, k, t]⟩ h true false (by decide)).2.2
    [n, xs] k [t] rfl hbefore).1 _ hk
  exact ⟨⟨entries, hassemble, hentries entries hassemble⟩, hmissing true, hmissing false, huncast⟩

set_option maxRecDepth 20000 in
/-- No header has the name `Ω`, but the record is neither nothing nor is a value missing: the key
    cannot be looked up. -/
theorem assemble_unencodable_key :
    let r : RecordDescriptor := ⟨[⟨"Ω", "Ω", .int, false, false⟩]⟩
    (r.fields.map (·.name)).Nodup ∧ Headers.Lacks {} "Ω" ∧
      (∀ nilable lenient,
        r.assemble {} nilable lenient = .error (.unencodable ⟨0, ['ω']⟩)) ∧
      r.assemble {} true true ≠ .ok none ∧ r.assemble {} false true ≠ .error (.missing "Ω") := by
  intro r
  have hu : Headers.values {} "Ω" = .error ⟨0, ['ω']⟩ := by rfl
  have hread (lenient : Bool) : FieldDescriptor.read ⟨"Ω", "Ω", .int, false, false⟩ {} lenient =
      .error (.unencodable ⟨0, ['ω']⟩) := FieldDescriptor.read_of_unencodable hu
  have hassemble (nilable lenient : Bool) :
      r.assemble {} nilable lenient = .error (.unencodable ⟨0, ['ω']⟩) := by
    rw [assemble, assembleFields_cons, hread]
  refine ⟨by decide, by simp [Headers.Lacks], hassemble, ?_, ?_⟩
  · rw [hassemble]
    simp
  · rw [hassemble]
    simp [BindError.missing]

end RecordDescriptor

end TypedHeaders
