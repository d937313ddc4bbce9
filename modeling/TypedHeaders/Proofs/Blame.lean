import TypedHeaders.Proofs.Declaration
import TypedHeaders.Proofs.Lookups
import TypedHeaders.Proofs.Refusals

/-!
# Which header is blamed

Binding fails in a few ways, each of which blames one header: that of a field of
a record if the field is missing or cannot be cast, and that of the parameter
otherwise (`Parameter.Fails`). What a client is told of it is *coherent*
(`Failure.IsCoherent`): there is a cause, told by some text, unless a header is
missing.

Where all keys can be sent, there is one way to end without a failure that a
client is told of: a constraint that the type does not check itself does not fit
the value, or its arithmetic has a fault (`Parameter.Misfits`). Types that check
everything have no part in that (`Parameter.checksAll`).

* `Parameter.of_bind_error`: the ways in which one parameter cannot be bound;
* `populate_blames`: and in which a set cannot.
-/

namespace TypedHeaders

/-! ## Causes are told by a text -/

theorem append_ne_empty {s t : String} (hs : s ≠ "") : s ++ t ≠ "" :=
  fun h => hs (String.append_eq_empty_iff.1 h).1

theorem Sized.name_ne_empty (what : Sized) : what.name ≠ "" := by
  cases what with
  | collection kind => cases kind <;> decide
  | dictionary | value => decide

/-- Every message opens with words of its own. -/
theorem Reason.message_ne_empty (r : Reason) : r.message ≠ "" := by
  cases r with
  | notCollection | notModel | notDataclass | notInstance | notAmong | notMultiple | above | below
  | notBelow | notAbove | tooManyPlaces | textTooLong | textTooShort | tooManyBytes | tooFewBytes
  | malformedTemplate => exact append_ne_empty (by decide +kernel)
  | textForSequence | tooManyDigits | tooManyWholeDigits =>
    exact append_ne_empty (append_ne_empty (by decide +kernel))
  | tooFewItems what | tooManyItems what =>
    exact append_ne_empty (append_ne_empty (append_ne_empty what.name_ne_empty))
  | _ => decide +kernel

theorem Problem.described_ne_empty (p : Problem) : p.described ≠ "" := by
  rw [described]
  split
  · exact p.reason.message_ne_empty
  · exact fun h => p.reason.message_ne_empty (String.append_eq_empty_iff.1 h).2

theorem Misuse.message_ne_empty (m : Misuse) : m.message ≠ "" := by
  cases m with
  | constraint => exact append_ne_empty (append_ne_empty (append_ne_empty (by decide +kernel)))
  | reshaping =>
    exact append_ne_empty (append_ne_empty (append_ne_empty (append_ne_empty (append_ne_empty
      (by decide +kernel)))))
  | finiteness => exact append_ne_empty (by decide +kernel)

theorem CastError.message_ne_empty (e : CastError) : e.message ≠ "" := by
  cases e with
  | tooManyDigits =>
    exact append_ne_empty (append_ne_empty (append_ne_empty (append_ne_empty (by decide +kernel))))
  | unreadableFloat | unsupportedTag => exact append_ne_empty (by decide +kernel)
  | _ => exact append_ne_empty (append_ne_empty (by decide +kernel))

/-- Every cause is told by a text. -/
theorem Cause.described_ne_empty (c : Cause) : c.described ≠ "" := by
  cases c with
  | uncast e => exact e.message_ne_empty
  | refused p => exact p.described_ne_empty
  | misused m => exact m.message_ne_empty
  | foreign e =>
    rw [described]
    split
    · cases e.type <;> decide
    · assumption

/-- A client is told a failure of one of the three kinds, with the header that is blamed, and with
    a cause exactly if the header is not missing. -/
structure Failure.IsCoherent (f : Failure) : Prop where
  kind : f.kind = .missing ∨ f.kind = .uncast ∨ f.kind = .invalid
  header : ∃ name, f.header = some name ∧ f.body.lookup "header" = some name
  missing : f.kind = .missing → f.body.lookup "cause" = none
  caused : f.kind ≠ .missing → ∃ text, f.body.lookup "cause" = some text ∧ text ≠ ""

theorem Failure.isCoherent_of_missing {name : String} :
    IsCoherent ⟨.missing, some name, none⟩ where
  kind := .inl rfl
  header := ⟨name, rfl, rfl⟩
  missing _ := rfl
  caused h := absurd rfl h

theorem Failure.isCoherent_of_cause {kind : FailureKind} {name : String} {c : Cause}
    (hkind : kind = .uncast ∨ kind = .invalid) : IsCoherent ⟨kind, some name, some c⟩ where
  kind := .inr hkind
  header := ⟨name, rfl, rfl⟩
  missing h := by
    rcases hkind with rfl | rfl <;> cases h
  caused _ := ⟨c.described, rfl, c.described_ne_empty⟩

/-! ## Looking up and reading -/

section Reading

variable {h : Headers} {key : String} {nilable lenient : Bool} {f : FieldDescriptor}
  {fs : List FieldDescriptor} {assembled : Entries Value} {e : BindError}

/-- The error of looking up a key that cannot be sent. -/
def BindError.IsUnsendable (e : BindError) (key : String) : Prop :=
  ∃ u, Text.unencodable? (Text.lower key).toList = some u ∧ e = .unencodable u

theorem BindError.not_isUnsendable (hkey : Text.isLatin (Text.lower key).toList = true) :
    ¬e.IsUnsendable key := by
  rintro ⟨u, hu, -⟩
  rw [unencodable?_of_isLatin hkey] at hu
  cases hu

/-- Looking up a key ends with an error only if the key cannot be sent. -/
theorem Headers.of_find_error (he : h.find key nilable lenient = .error e) :
    e.IsUnsendable key := by
  rw [find, values_eq_under] at he
  cases hu : Text.unencodable? (Text.lower key).toList with
  | some u =>
    rw [hu] at he
    exact ⟨u, hu, (Except.error.inj he).symm⟩
  | none =>
    rw [hu] at he
    cases he

/-- Reading a field ends with an error only if its key cannot be sent or its text cannot be
    cast. -/
theorem FieldDescriptor.of_read_error (he : f.read h lenient = .error e) :
    e.IsUnsendable f.headerKey ∨
    ∃ first rest c, h.find f.headerKey f.nilable lenient = .ok (.values first rest) ∧
      castTexts f.tag f.isArray first rest = .error c ∧ e = .uncast f.headerKey c := by
  rw [read_eq] at he
  split at he
  · rename_i hfind
    exact .inl (Headers.of_find_error (Except.error.inj he ▸ hfind))
  · cases he
  · cases he
  · rename_i first rest hfind
    split at he
    · cases he
    · rename_i c hcast
      exact .inr ⟨first, rest, c, hfind, hcast, (Except.error.inj he).symm⟩

theorem FieldDescriptor.of_read_none (hr : f.read h lenient = .ok none) :
    h.find f.headerKey f.nilable lenient = .ok .missing := by
  rw [read_eq] at hr
  split at hr
  · cases hr
  · cases hr
  · assumption
  · split at hr <;> cases hr

/-- A record cannot be assembled because of one of its fields. -/
theorem of_assembleFields_error (he : assembleFields h nilable lenient assembled fs = .error e) :
    ∃ f ∈ fs, f.read h lenient = .error e ∨
      nilable = false ∧ f.read h lenient = .ok none ∧ e = .missing f.headerKey := by
  induction fs generalizing assembled with
  | nil => cases he
  | cons f fs ih =>
    rw [assembleFields_cons] at he
    split at he
    · rename_i hread
      cases he
      exact ⟨f, List.mem_cons_self, .inl hread⟩
    · obtain ⟨g, hg, hgread⟩ := ih he
      exact ⟨g, List.mem_cons_of_mem f hg, hgread⟩
    · rename_i hread
      -- A nilable record ends at a missing field, too, but not with an error.
      cases nilable with
      | true => cases he
      | false => exact ⟨f, List.mem_cons_self, .inr ⟨rfl, hread, (Except.error.inj he).symm⟩⟩

end Reading

/-! ## How a parameter fails -/

namespace Reading

/-- The tag by which the texts of the parameter's own header are cast, that of a record apart. -/
def ownTag? : Reading → Option Tag
  | scalar tag _ | array tag _ => some tag
  | record _ _ => none

end Reading

namespace Parameter

/-- The value that is to be converted: what the texts of the parameter's header are cast to, the
    dictionary of a record, or nothing for a nilable record of which a field is missing. -/
inductive Casts (p : Parameter) (h : Headers) (lenient : Bool) : Value → Prop
  | texts {tag : Tag} {first : String} {rest : List String} {v : Value} :
      p.reading.ownTag? = some tag → h.find p.header p.nilable lenient = .ok (.values first rest) →
      castTexts tag p.isArray first rest = .ok v → Casts p h lenient v
  | fields {r : RecordDescriptor} {tag : Option Tag} {entries : Entries Value} :
      p.reading = .record r tag → r.assemble h p.nilable lenient = .ok (some entries) →
      Casts p h lenient (.dict entries)
  | absent {r : RecordDescriptor} {tag : Option Tag} :
      p.reading = .record r tag → r.assemble h p.nilable lenient = .ok none →
      Casts p h lenient .absent

/-- What is to be converted is converted to a value that is then checked against the notes. -/
structure Checks (p : Parameter) (h : Headers) (lenient : Bool) (w : Value) : Prop where
  notes : p.notes ≠ []
  present : w ≠ .absent
  converted : ∃ v, p.Casts h lenient v ∧ p.type.convert v = .ok w

/-- The value under the notes, as far as it is one. -/
def checked (p : Parameter) (w : Value) : Except Rejection Value :=
  (p.restriction.base.annotate p.restriction.notes).convert w

/-- The ways in which a parameter fails, and the header that each of them blames. -/
inductive Fails (p : Parameter) (h : Headers) (lenient : Bool) : Failure → Prop
  /-- The header of the parameter is missing. -/
  | missing {tag : Tag} :
      p.reading.ownTag? = some tag → h.find p.header p.nilable lenient = .ok .missing →
      Fails p h lenient ⟨.missing, p.header, none⟩
  /-- Its text cannot be cast. -/
  | uncast {tag : Tag} {first : String} {rest : List String} {c : CastError} :
      p.reading.ownTag? = some tag → h.find p.header p.nilable lenient = .ok (.values first rest) →
      castTexts tag p.isArray first rest = .error c →
      Fails p h lenient ⟨.uncast, p.header, some (.uncast c)⟩
  /-- The header of a field of a record that has to be there is missing. -/
  | fieldMissing {r : RecordDescriptor} {tag : Option Tag} {f : FieldDescriptor} :
      p.reading = .record r tag → p.nilable = false → f ∈ r.fields →
      h.find f.headerKey f.nilable lenient = .ok .missing →
      Fails p h lenient ⟨.missing, f.headerKey, none⟩
  /-- The text of a field cannot be cast. -/
  | fieldUncast {r : RecordDescriptor} {tag : Option Tag} {f : FieldDescriptor} {first : String}
      {rest : List String} {c : CastError} :
      p.reading = .record r tag → f ∈ r.fields →
      h.find f.headerKey f.nilable lenient = .ok (.values first rest) →
      castTexts f.tag f.isArray first rest = .error c →
      Fails p h lenient ⟨.uncast, f.headerKey, some (.uncast c)⟩
  /-- The cast value has a problem as a value of the type. -/
  | refused {v : Value} {q : Problem} :
      p.Casts h lenient v → p.type.convert v = .error (.problem q) →
      Fails p h lenient ⟨.uncast, p.header, some (.refused q)⟩
  /-- A constraint within the type does not fit the cast value. -/
  | misused {v : Value} {m : Misuse} :
      p.Casts h lenient v → p.type.convert v = .error (.misuse m) →
      Fails p h lenient ⟨.uncast, p.header, some (.misused m)⟩
  /-- The converted value breaks a constraint beside the type. -/
  | invalid {w : Value} {q : Problem} :
      p.Checks h lenient w → p.checked w = .error (.problem q) →
      Fails p h lenient ⟨.invalid, p.header, some (.refused q)⟩

/-- The ways in which a parameter ends without a failure: a calculation without a result, and a
    constraint beside the type that does not fit the value. -/
inductive Misfits (p : Parameter) (h : Headers) (lenient : Bool) : BindError → Prop
  | conversion {v : Value} {f : Fault} :
      p.Casts h lenient v → p.type.convert v = .error (.fault f) → Misfits p h lenient (.arithmetic f)
  | check {w : Value} {f : Fault} :
      p.Checks h lenient w → p.checked w = .error (.fault f) → Misfits p h lenient (.arithmetic f)
  | unfit {w : Value} {m : Misuse} :
      p.Checks h lenient w → p.checked w = .error (.misuse m) → Misfits p h lenient (.misuse m)

variable {p : Parameter} {h : Headers} {lenient : Bool} {v w : Value} {e : BindError} {f : Failure}

/-- Every failure of a parameter is told coherently. -/
theorem Fails.isCoherent (hf : p.Fails h lenient f) : f.IsCoherent := by
  cases hf with
  | missing | fieldMissing => exact Failure.isCoherent_of_missing
  | uncast | fieldUncast | refused | misused => exact Failure.isCoherent_of_cause (.inl rfl)
  | invalid => exact Failure.isCoherent_of_cause (.inr rfl)

/-! ## What checks everything -/

/-- Do the conversions to the type, and to the type under the notes, check all constraints
    themselves? -/
def checksAll (p : Parameter) : Bool :=
  p.type.checksAll [] && (p.notes.isEmpty || p.type.stripOptional.checksAll (constraintsOf p.notes))

theorem isFinal_of_convert_error {t : TypeExpr} (ht : t.checksAll [] = true) {r : Rejection}
    (hr : t.convert v = .error r) : r.isFinal = false :=
  isTame_convert t [] v ht r (Converted.result_eq_error.1 hr)

/-- What checks all constraints itself is never unfit for a value. -/
theorem Misfits.not_checksAll (he : p.Misfits h lenient e) : p.checksAll = false := by
  by_contra hall
  rw [Bool.not_eq_false, checksAll, Bool.and_eq_true, Bool.or_eq_true, List.isEmpty_iff] at hall
  -- Under notes, the constraints are those of the notes.
  have hchecked {w : Value} (hw : p.Checks h lenient w) {r : Rejection}
      (hr : p.checked w = .error r) : r.isFinal = false := by
    have hnotes := hall.2.resolve_left hw.notes
    rw [checked, TypeExpr.convert, convert_annotate, List.append_nil,
      Converted.result_eq_error] at hr
    exact isTame_convert _ _ w hnotes r hr
  cases he with
  | conversion _ hr => cases isFinal_of_convert_error hall.1 hr
  | check hw hr => cases hchecked hw hr
  | unfit hw hr => cases hchecked hw hr

/-! ## Every way to end -/

/-- What is to be converted, and cannot be finished, is refused or does not fit. -/
theorem fails_or_misfits_of_finish (hv : p.Casts h lenient v) (he : p.finish v = .error e) :
    (∃ f, e = .failure f ∧ p.Fails h lenient f) ∨ p.Misfits h lenient e := by
  -- Either the conversion to the type ends, or the check against the notes that follows it.
  rcases bind_eq_error.1 he with hconvert | ⟨w, hw, hcheck⟩
  · rw [convert] at hconvert
    split at hconvert
    · cases hconvert
    · cases hconvert
      exact .inl ⟨_, rfl, .refused hv ‹_›⟩
    · cases hconvert
      exact .inl ⟨_, rfl, .misused hv ‹_›⟩
    · cases hconvert
      exact .inr (.conversion hv ‹_›)
  · have hconverted : p.type.convert v = .ok w := by
      rw [convert] at hw
      split at hw
      · cases hw
        assumption
      · cases hw
      · cases hw
      · cases hw
    rw [Restriction.check] at hcheck
    split at hcheck
    · cases hcheck
    · -- What is checked at all is a value, under at least one note.
      rename_i hactive
      rw [Bool.or_eq_true, Restriction.active, Bool.not_not, List.isEmpty_iff, Value.isAbsent_iff,
        not_or] at hactive
      have hchecks : p.Checks h lenient w := ⟨hactive.1, hactive.2, v, hv, hconverted⟩
      split at hcheck
      · cases hcheck
      · cases hcheck
        exact .inl ⟨_, rfl, .invalid hchecks ‹_›⟩
      · cases hcheck
        exact .inr (.unfit hchecks ‹_›)
      · cases hcheck
        exact .inr (.check hchecks ‹_›)

/-- What is bound from its own header fails in one of the ways, or does not fit, unless the header
    cannot be looked up. -/
theorem of_bindTexts_error {tag : Tag} (htag : p.reading.ownTag? = some tag)
    (he : p.bindTexts tag h lenient = .error e) :
    e.IsUnsendable p.header ∨ (∃ f, e = .failure f ∧ p.Fails h lenient f) ∨
      p.Misfits h lenient e := by
  rw [bindTexts_eq] at he
  split at he
  · rename_i hfind
    exact .inl (Headers.of_find_error (Except.error.inj he ▸ hfind))
  · cases he
  · rename_i hfind
    cases he
    exact .inr (.inl ⟨_, rfl, .missing htag hfind⟩)
  · rename_i hfind
    split at he
    · rename_i hcast
      exact .inr (fails_or_misfits_of_finish (.texts htag hfind hcast) he)
    · rename_i hcast
      cases he
      exact .inr (.inl ⟨_, rfl, .uncast htag hfind hcast⟩)

/-- A parameter that cannot be bound fails in one of the ways, or does not fit, unless one of its
    keys cannot be looked up. -/
theorem of_bind_error (he : p.bind h lenient = .error e) :
    (∃ l ∈ p.lookups, e.IsUnsendable l.key) ∨ (∃ f, e = .failure f ∧ p.Fails h lenient f) ∨
      p.Misfits h lenient e := by
  cases hr : p.reading with
  | scalar tag _ | array tag _ =>
    simp only [bind, hr] at he
    refine (of_bindTexts_error (by rw [hr, Reading.ownTag?]) he).imp_left fun hu => ?_
    exact ⟨⟨p.header, p.isArray⟩, by simp [lookups, hr], hu⟩
  | record r tag =>
    rw [bind_of_record hr] at he
    split at he
    · rename_i hassemble
      cases he
      obtain ⟨f, hf, hread | ⟨hn, hread, rfl⟩⟩ := of_assembleFields_error hassemble
      · obtain hu | ⟨first, rest, c, hfind, hcast, rfl⟩ := FieldDescriptor.of_read_error hread
        · refine .inl ⟨f.lookup, ?_, hu⟩
          simp only [lookups, hr]
          exact List.mem_map_of_mem hf
        · exact .inr (.inl ⟨_, rfl, .fieldUncast hr hf hfind hcast⟩)
      · exact .inr (.inl ⟨_, rfl, .fieldMissing hr hn hf (FieldDescriptor.of_read_none hread)⟩)
    · rename_i hassemble
      exact .inr (fails_or_misfits_of_finish (.fields hr hassemble) he)
    · rename_i hassemble
      exact .inr (fails_or_misfits_of_finish (.absent hr hassemble) he)

/-- No slot is missing for binding a parameter: only filling a feed needs slots. -/
theorem bind_error_ne_noSlot (he : p.bind h lenient = .error e) :
    e ≠ .noSlotToWrite ∧ e ≠ .noSlotToRead := by
  obtain ⟨l, -, u, -, rfl⟩ | ⟨f, rfl, -⟩ | he := of_bind_error he
  · simp
  · simp
  · cases he <;> simp

/-- The parameter can only fail: all of its keys can be sent, and it checks all constraints
    itself. -/
def OnlyFails (p : Parameter) : Prop :=
  (∀ l ∈ p.lookups, Text.isLatin (Text.lower l.key).toList = true) ∧ p.checksAll = true

instance (p : Parameter) : Decidable p.OnlyFails := inferInstanceAs (Decidable (_ ∧ _))

theorem OnlyFails.of_bind_error (hp : p.OnlyFails) (he : p.bind h lenient = .error e) :
    ∃ f, e = .failure f ∧ p.Fails h lenient f := by
  obtain ⟨l, hl, hu⟩ | hf | he := Parameter.of_bind_error he
  · exact absurd hu (BindError.not_isUnsendable (hp.1 l hl))
  · exact hf
  · have hall := hp.2
    rw [he.not_checksAll] at hall
    cases hall

end Parameter

namespace BindingSet

/-- Binding a set of which all keys can be sent, into a feed that has all of its slots, succeeds or
    ends at the first parameter that cannot be bound: with a failure of it that blames the header
    at fault and is told coherently, or because a constraint does not fit. The latter happens only
    to a parameter that does not check all constraints itself. -/
theorem populate_blames (s : BindingSet) (h : Headers) (lenient : Bool) (old : Feed)
    (hkeys : ∀ key ∈ s.keys, Text.isLatin (Text.lower key).toList = true)
    (hsize : s.feedSize ≤ old.length) :
    (∃ new, s.populate h lenient old = (new, none)) ∨
    ∃ before p after new e, s.params = before ++ p :: after ∧
      (∀ q ∈ before, ∃ v, q.bind h lenient = .ok v) ∧ p.bind h lenient = .error e ∧
      s.populate h lenient old = (new, some e) ∧
      ((∃ f, e = .failure f ∧ p.Fails h lenient f ∧ f.IsCoherent) ∨
        p.Misfits h lenient e ∧ p.checksAll = false) := by
  obtain ⟨new, none | e, hnew⟩ : ∃ new e, s.populate h lenient old = (new, e) := ⟨_, _, rfl⟩
  · exact .inl ⟨new, hnew⟩
  · have hslots : ∀ p ∈ s.params, p.slot + 1 < old.length := fun p hp => by
      have := slot_le_feedSize s hp
      omega
    obtain ⟨before, p, after, hs, hbefore, hp⟩ := Feed.of_populate_error hslots hnew
    refine .inr ⟨before, p, after, new, e, hs, hbefore, hp, hnew, ?_⟩
    -- The keys can all be sent, which leaves the failures and the misfits.
    rcases Parameter.of_bind_error hp with ⟨l, hl, hu⟩ | ⟨f, rfl, hf⟩ | he
    · have hmem : p ∈ s.params := hs ▸ List.mem_append_right before List.mem_cons_self
      have hkey := hkeys l.key (List.mem_map_of_mem (List.mem_flatMap.2 ⟨p, hmem, hl⟩))
      exact absurd hu (BindError.not_isUnsendable hkey)
    · exact .inl ⟨f, rfl, hf, hf.isCoherent⟩
    · exact .inr ⟨he, he.not_checksAll⟩

set_option maxRecDepth 20000 in
/-- Of a record, the second field cannot be cast: its header is blamed, and not that of the
    parameter. -/
theorem populate_blames_field :
    let span : Parameter :=
      ⟨"span", "X-Span", 0, .record ⟨[⟨"t", "t", .string, false, true⟩, ⟨"n", "n", .int, true, false⟩]⟩,
        .plain .dict, false, []⟩
    let s : BindingSet := { params := [span] }
    let h : Headers := ⟨[("n", "1"), ("n", "one")]⟩
    ∃ new f, s.populate h true (Feed.empty 2) = (new, some (.failure f)) ∧ span.Fails h true f ∧
      f.IsCoherent ∧ f.header = some "n" := by
  intro span s h
  have hkeys : ∀ key ∈ s.keys, Text.isLatin (Text.lower key).toList = true := by decide +kernel
  have hbind : span.bind h true = .error (.uncast "n" (.invalidInt "one")) := by
    have ht : h.values "t" = .ok [] := by
      subst h
      rfl
    have hn : h.values "n" = .ok ["1", "one"] := by
      subst h
      rfl
    rw [Parameter.bind_of_record rfl]
    simp only [RecordDescriptor.assemble, assembleFields_cons, FieldDescriptor.read_eq,
      Headers.find, ht, hn]
    rfl
  have hpopulate : s.populate h true (Feed.empty 2) =
      (Feed.empty 2, some (.uncast "n" (.invalidInt "one"))) := Feed.populate_cons_of_error hbind
  obtain ⟨new, hnew⟩ | ⟨before, p, after, new, e, hs, -, hp, hnew, hfails⟩ :=
    populate_blames s h true (Feed.empty 2) hkeys (by decide)
  · rw [hpopulate] at hnew
    cases hnew
  · have hspan : p = span :=
      List.mem_singleton.1 (show p ∈ s.params from hs ▸ List.mem_append_right _ List.mem_cons_self)
    subst hspan
    rw [hbind] at hp
    cases hp
    obtain ⟨f, hf, hspan, hcoherent⟩ | ⟨-, hchecks⟩ := hfails
    · cases BindError.failure.inj hf
      exact ⟨new, _, hnew, hspan, hcoherent, rfl⟩
    · cases hchecks

set_option maxRecDepth 20000 in
/-- A least length is no constraint that an integer can be checked for: binding one ends without a
    failure, although its header can be sent and its text is cast and converted. -/
theorem populate_blames_nothing :
    let declared : TypeExpr :=
      .annotated (.plain .int) [.marker {}, .limits { minLength := some 1 }]
    let h : Headers := ⟨[("a", "5")]⟩
    ∃ p e, Parameter.ofType true "a" 0 declared none = .ok p ∧
      (∀ key ∈ keys { params := [p] }, Text.isLatin (Text.lower key).toList = true) ∧
      p.Checks h true (.int 5) ∧
      populate { params := [p] } h true (Feed.empty 2) = (Feed.empty 2, some e) ∧
      ∀ f, e ≠ .failure f := by
  intro declared h
  let p : Parameter :=
    ⟨"a", "a", 0, .scalar .int, .plain .int, false, [.limits { minLength := some 1 }]⟩
  have hvalues : h.values "a" = .ok ["5"] := by
    subst h
    rfl
  have hfind : h.find "a" false true = .ok (.values "5" []) := by
    rw [Headers.find, hvalues]
    rfl
  have hbind : p.bind h true = .error (.misuse (.constraint "min_length" "5")) := by
    change p.bindTexts .int h true = _
    rw [Parameter.bindTexts_eq, hfind]
    cbv
  refine ⟨p, _, by cbv, by decide +kernel, ?_, Feed.populate_cons_of_error hbind, ?_⟩
  · refine ⟨by simp [p], by simp, .int 5, .texts rfl hfind ?_, ?_⟩
    · cbv
    · cbv
  · exact fun f hf => by cases hf

end BindingSet

end TypedHeaders
