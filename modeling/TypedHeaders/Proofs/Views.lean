import TypedHeaders.Proofs.CaseMappings
import TypedHeaders.Proofs.Lookups

/-!
# Headers as a multimap

What becomes of the entries that headers are made from: names, each with one value
or several. The name of an entry in lower case and the texts of its values have to
be Latin-1, and are looked at in this order, entry by entry (`sentTexts`); an integer
with too many digits has no text, and cannot be sent either (`isSendable`). The
first one that cannot be sent is reported, whatever comes after it; otherwise a key
gets the texts of all entries whose names are the key in lower case, in order
(`ofItems_entries`).

Putting a text into lower case once is enough (`Text.lower_lower`), so that a name
is found under itself and under its lower-case form. Names that are not Latin-1
may be so in lower case, as that of the Kelvin sign.

* `ofSource_is_multimap`: this holds of entries that are given as items, or as a
  table;
* `Headers.ofItems_spread`: several values may as well come one by one.
-/

namespace TypedHeaders

namespace Text

theorem lower_lower (s : String) : lower (lower s) = lower s := by
  have hlower : ∀ c ∈ lowerCase s.toList, IsLower c := fun _ => isLower_of_mem_lowerFrom
  rw [lower, lower, String.toList_ofList, lowerCase, lowerFrom_eq_self hlower]

end Text

/-! ## Entries -/

/-- A name with its values. -/
abbrev HeaderEntry := String × HeaderValue

namespace HeaderEntry

/-- The entry as an item. -/
def item (e : HeaderEntry) : HeaderItem := .pair (.text e.1) e.2

/-- The texts of an entry that have to be Latin-1, in the order in which they are looked at, each
    with the name that is blamed for it. -/
def sentTexts (e : HeaderEntry) : List (String × Option String) :=
  (e.1, some (Text.lower e.1)) :: e.2.texts.map (e.1, ·)

/-- What headers keep of the entry. -/
def kept (e : HeaderEntry) : List (String × String) :=
  e.2.texts.reduceOption.map (Text.lower e.1, ·)

/-- What the entry has for a key. -/
def under (key : String) (e : HeaderEntry) : List String :=
  if Text.lower e.1 = Text.lower key then e.2.texts.reduceOption else []

theorem under_lower (key : String) : under (Text.lower key) = under key := by
  funext e
  rw [under, under, Text.lower_lower]

end HeaderEntry

/-- The texts of entries that have to be Latin-1, in order. -/
def sentTexts (entries : List HeaderEntry) : List (String × Option String) :=
  entries.flatMap HeaderEntry.sentTexts

/-- Can a text be sent? It has to be there, and to be Latin-1. -/
def isSendable : Option String → Bool
  | some text => Text.isLatin text.toList
  | none => false

@[simp] theorem isSendable_some (text : String) :
    isSendable (some text) = Text.isLatin text.toList := rfl

theorem map_some_reduceOption {texts : List (Option String)}
    (hthere : ∀ text ∈ texts, text.isSome = true) : texts.reduceOption.map some = texts := by
  induction texts with
  | nil => rfl
  | cons text texts ih =>
    obtain ⟨t, rfl⟩ := Option.isSome_iff_exists.1 (hthere _ List.mem_cons_self)
    rw [List.reduceOption_cons_of_some, List.map_cons,
      ih fun text htext => hthere text (List.mem_cons_of_mem _ htext)]

/-- What is said of a text that cannot be sent. -/
def HeadersError.ofUnsendable : String × Option String → HeadersError
  | (name, some text) => .unencodable name text
  | (_, none) => .tooManyDigits

/-- The first text that cannot be sent, with the name that is blamed for it. -/
def unsendable? (texts : List (String × Option String)) : Option (String × Option String) :=
  texts.find? fun t => !isSendable t.2

theorem unsendable?_cons (t : String × Option String) (texts : List (String × Option String)) :
    unsendable? (t :: texts) = if isSendable t.2 then unsendable? texts else some t := by
  rw [unsendable?, List.find?_cons]
  cases isSendable t.2 <;> rfl

theorem unsendable?_append (ts us : List (String × Option String)) :
    unsendable? (ts ++ us) = (unsendable? ts).or (unsendable? us) := List.find?_append

theorem unsendable?_eq_none {ts : List (String × Option String)} :
    unsendable? ts = none ↔ ∀ t ∈ ts, isSendable t.2 = true := by
  simp [unsendable?]

theorem sentTexts_append (es fs : List HeaderEntry) :
    sentTexts (es ++ fs) = sentTexts es ++ sentTexts fs := List.flatMap_append

theorem sentTexts_cons (e : HeaderEntry) (es : List HeaderEntry) :
    sentTexts (e :: es) = e.sentTexts ++ sentTexts es := List.flatMap_cons

namespace Headers

/-- The first text that cannot be sent is reported. -/
theorem mapM_checkWritten (name : String) (texts : List (Option String)) :
    texts.mapM (checkWritten name) =
      match unsendable? (texts.map (name, ·)) with
      | some t => .error (.ofUnsendable t)
      | none => .ok texts.reduceOption := by
  induction texts with
  | nil => rfl
  | cons text texts ih =>
    rw [List.mapM_cons, ih, List.map_cons, unsendable?_cons]
    cases text with
    | none => rfl
    | some text =>
      rw [checkWritten, checkLatin, isSendable_some]
      cases Text.isLatin text.toList with
      | false => rfl
      | true => cases unsendable? (texts.map (name, ·)) <;> rfl

theorem ofItem_entry (e : HeaderEntry) :
    ofItem e.item =
      match unsendable? e.sentTexts with
      | some t => .error (.ofUnsendable t)
      | none => .ok e.kept := by
  rw [HeaderEntry.item, ofItem, mapM_checkWritten, HeaderEntry.sentTexts, unsendable?_cons,
    isSendable_some, checkLatin]
  cases Text.isLatin (Text.lower e.1).toList with
  | false => rfl
  | true => cases unsendable? (e.2.texts.map (e.1, ·)) <;> rfl

/-- Entries give headers if all of their texts can be sent, and otherwise the first one that
    cannot is reported. -/
theorem ofItems_entries (entries : List HeaderEntry) :
    ofItems (entries.map HeaderEntry.item) =
      match unsendable? (sentTexts entries) with
      | some t => .error (.ofUnsendable t)
      | none => .ok ⟨entries.flatMap HeaderEntry.kept⟩ := by
  have hmapM : (entries.map HeaderEntry.item).mapM ofItem =
      match unsendable? (sentTexts entries) with
      | some t => .error (.ofUnsendable t)
      | none => .ok (entries.map HeaderEntry.kept) := by
    induction entries with
    | nil => rfl
    | cons e entries ih =>
      rw [List.map_cons, List.mapM_cons, ih, ofItem_entry, sentTexts_cons, unsendable?_append]
      cases unsendable? e.sentTexts with
      | some t => rfl
      | none => cases unsendable? (sentTexts entries) <;> rfl
  rw [ofItems, hmapM]
  cases unsendable? (sentTexts entries) with
  | some t => rfl
  | none => rfl

/-- What a key gets from headers that are made of entries. -/
theorem values_of_entries {entries : List HeaderEntry} {h : Headers}
    (hh : ofItems (entries.map HeaderEntry.item) = .ok h) {key : String}
    (hkey : Text.isLatin (Text.lower key).toList = true) :
    h.values key = .ok (entries.flatMap (HeaderEntry.under key)) := by
  rw [values_eq_linesUnder hh, unencodable?_of_isLatin hkey, linesUnder, List.flatMap_map]
  rfl

end Headers

/-! ## Values one by one -/

section Spread

variable {before after : List HeaderEntry} {name : String} {values : List Atom}

/-- An entry with several values as entries with one each. -/
def spread (name : String) (values : List Atom) : List HeaderEntry :=
  values.map fun a => (name, .one a)

theorem flatMap_kept_spread :
    (spread name values).flatMap HeaderEntry.kept = HeaderEntry.kept (name, .many values) := by
  induction values with
  | nil => rfl
  | cons a values ih =>
    rw [spread, List.map_cons, List.flatMap_cons, ← spread, ih]
    change List.map _ (List.reduceOption [a.written?]) ++ _ = _
    rw [HeaderEntry.kept, ← List.map_append, ← List.reduceOption_append]
    rfl

/-- A name that is Latin-1 may be looked at any number of times. -/
theorem unsendable?_spread (hname : Text.isLatin (Text.lower name).toList = true) :
    unsendable? (sentTexts (spread name values)) =
      unsendable? (HeaderEntry.sentTexts (name, .many values)) := by
  rw [HeaderEntry.sentTexts, unsendable?_cons, isSendable_some, if_pos hname]
  induction values with
  | nil => rfl
  | cons a values ih =>
    rw [spread, List.map_cons, sentTexts_cons, ← spread, unsendable?_append, ih,
      HeaderEntry.sentTexts, unsendable?_cons, isSendable_some, if_pos hname]
    exact (unsendable?_append [(name, a.written?)] _).symm

/-- Any other name is reported, if it is looked at at all. -/
theorem unsendable?_spread_of_not_latin (hname : Text.isLatin (Text.lower name).toList = false)
    (hvalues : values ≠ []) :
    unsendable? (sentTexts (spread name values)) =
      unsendable? (HeaderEntry.sentTexts (name, .many values)) := by
  obtain ⟨a, values, rfl⟩ := List.exists_cons_of_ne_nil hvalues
  rw [spread, List.map_cons, sentTexts_cons, HeaderEntry.sentTexts, HeaderEntry.sentTexts,
    List.cons_append, unsendable?_cons, unsendable?_cons]
  simp [hname]

/-- Several values may come one by one, if the name is looked at all the same. -/
theorem Headers.ofItems_spread
    (hname : Text.isLatin (Text.lower name).toList = true ∨ values ≠ []) :
    ofItems ((before ++ spread name values ++ after).map HeaderEntry.item) =
      ofItems ((before ++ (name, .many values) :: after).map HeaderEntry.item) := by
  have hspread : unsendable? (sentTexts (spread name values)) =
      unsendable? (HeaderEntry.sentTexts (name, .many values)) := by
    cases hlatin : Text.isLatin (Text.lower name).toList with
    | true => exact unsendable?_spread hlatin
    | false =>
      exact unsendable?_spread_of_not_latin hlatin (hname.resolve_left (by simp [hlatin]))
  rw [ofItems_entries, ofItems_entries]
  simp only [sentTexts_append, sentTexts_cons, unsendable?_append, List.flatMap_append,
    List.flatMap_cons, hspread, flatMap_kept_spread, List.append_assoc]

end Spread

/-! ## Sources -/

/-- The source gives the entries: as items, or as a table. -/
inductive HeaderSource.Gives : HeaderSource → List HeaderEntry → Prop
  | items (entries : List HeaderEntry) : Gives (.items (entries.map HeaderEntry.item)) entries
  | table (entries : List HeaderEntry) :
    Gives (.table (entries.map fun e => (.text e.1, e.2))) entries

namespace Headers

variable {source : HeaderSource} {entries : List HeaderEntry}

theorem ofSource_of_gives (hs : source.Gives entries) :
    ofSource source = ofItems (entries.map HeaderEntry.item) := by
  cases hs with
  | items => rfl
  | table =>
    rw [ofSource, List.map_map]
    rfl

/-- All texts of which headers are made can be sent. -/
theorem isSendable_of_ofItems {h : Headers} (hh : ofItems (entries.map HeaderEntry.item) = .ok h) :
    ∀ t ∈ sentTexts entries, isSendable t.2 = true := by
  refine unsendable?_eq_none.1 (Option.eq_none_iff_forall_ne_some.2 fun t ht => ?_)
  rw [ofItems_entries, ht] at hh
  cases hh

/-- Every value of an entry of which headers are made has been written. -/
theorem texts_eq_of_ofItems {h : Headers} (hh : ofItems (entries.map HeaderEntry.item) = .ok h)
    {e : HeaderEntry} (he : e ∈ entries) : e.2.texts = e.2.texts.reduceOption.map some := by
  refine (map_some_reduceOption fun text htext => ?_).symm
  have hsent : (e.1, text) ∈ sentTexts entries :=
    List.mem_flatMap.2 ⟨e, he, List.mem_cons_of_mem _ (List.mem_map_of_mem htext)⟩
  have hsendable := isSendable_of_ofItems hh _ hsent
  cases text with
  | none => cases hsendable
  | some text => rfl

/-- The first text that cannot be sent is reported. -/
theorem ofItems_of_first_unsendable {before after : List (String × Option String)}
    {t : String × Option String} (hsent : sentTexts entries = before ++ t :: after)
    (hbefore : ∀ u ∈ before, isSendable u.2 = true) (ht : isSendable t.2 = false) :
    ofItems (entries.map HeaderEntry.item) = .error (.ofUnsendable t) := by
  rw [ofItems_entries, hsent, unsendable?_append, unsendable?_eq_none.2 hbefore, Option.none_or,
    unsendable?_cons, if_neg (by simp [ht])]

/-- There are no headers exactly if there is such a text. -/
theorem ofItems_fails_iff :
    (∃ e, ofItems (entries.map HeaderEntry.item) = .error e) ↔
      ∃ t ∈ sentTexts entries, isSendable t.2 = false := by
  constructor
  · rintro ⟨e, he⟩
    by_contra hnone
    have hall : unsendable? (sentTexts entries) = none :=
      unsendable?_eq_none.2 fun t ht => by simpa using fun h => hnone ⟨t, ht, h⟩
    rw [ofItems_entries, hall] at he
    cases he
  · rintro ⟨t, ht, hbad⟩
    cases hh : ofItems (entries.map HeaderEntry.item) with
    | error e => exact ⟨e, rfl⟩
    | ok h => exact absurd (isSendable_of_ofItems hh t ht) (by simp [hbad])

theorem message_unencodable (name text : String) :
    (HeadersError.unencodable name text).message =
      "header " ++ Text.quote name ++ " is not latin-1 encodable: " ++ Text.quote text := by
  unfold HeadersError.message
  simp only [toString]

theorem message_tooManyDigits :
    HeadersError.tooManyDigits.message =
      "Exceeds the limit (4300 digits) for integer string conversion; " ++
        "use sys.set_int_max_str_digits() to increase the limit" := by
  have hdigits : Numeral.integerText maxIntDigits = "4300" := by decide +kernel
  unfold HeadersError.message
  rw [hdigits]
  simp only [toString]
  rfl

/-- Headers are a multimap of the entries that they are made from. There are none exactly if the
    name of an entry in lower case or a text of its values is not Latin-1, or an integer among the
    values has too many digits to be written; the first of these is reported, names before their
    values, with the text that is to blame. Otherwise every key gets the texts of the entries whose
    names are the key in lower case, in order; so every entry is found under its name, and under
    its name in lower case. Neither does it count whether the entries are items or a table, nor do
    the headers change if several values come one by one. -/
theorem ofSource_is_multimap (hs : source.Gives entries) :
    ((∃ e, ofSource source = .error e) ↔
      ∃ t ∈ sentTexts entries, isSendable t.2 = false) ∧
    (∀ before name text after, sentTexts entries = before ++ (name, some text) :: after →
      (∀ u ∈ before, isSendable u.2 = true) → Text.isLatin text.toList = false →
        ∃ e, ofSource source = .error e ∧ e = .unencodable name text ∧
          e.message =
            "header " ++ Text.quote name ++ " is not latin-1 encodable: " ++ Text.quote text) ∧
    (∀ before name after, sentTexts entries = before ++ (name, none) :: after →
      (∀ u ∈ before, isSendable u.2 = true) →
        ∃ e, ofSource source = .error e ∧ e = .tooManyDigits ∧
          e.message = "Exceeds the limit (4300 digits) for integer string conversion; " ++
            "use sys.set_int_max_str_digits() to increase the limit") ∧
    (∀ h, ofSource source = .ok h →
      (∀ key, Text.isLatin (Text.lower key).toList = true →
        h.values key = .ok (entries.flatMap (HeaderEntry.under key))) ∧
      ∀ e ∈ entries, ∃ texts values, e.2.texts = texts.map some ∧ h.values e.1 = .ok values ∧
        h.values (Text.lower e.1) = .ok values ∧ texts <:+: values) ∧
    (∀ source' : HeaderSource, source'.Gives entries → ofSource source' = ofSource source) ∧
    ∀ before name values after, entries = before ++ (name, .many values) :: after →
      ∀ source' : HeaderSource, source'.Gives (before ++ spread name values ++ after) →
        (∀ h, ofSource source = .ok h → ofSource source' = .ok h) ∧
          (values ≠ [] → ofSource source' = ofSource source) := by
  rw [ofSource_of_gives hs]
  have hname {e : HeaderEntry} (he : e ∈ entries) :
      (e.1, some (Text.lower e.1)) ∈ sentTexts entries :=
    List.mem_flatMap.2 ⟨e, he, List.mem_cons_self⟩
  refine ⟨ofItems_fails_iff, ?_, ?_, fun h hh => ⟨fun key => values_of_entries hh, fun e he => ?_⟩,
    fun source' hs' => ofSource_of_gives hs', ?_⟩
  · intro before name text after hsent hbefore htext
    exact ⟨_, ofItems_of_first_unsendable hsent hbefore htext, rfl, message_unencodable name text⟩
  · intro before name after hsent hbefore
    exact ⟨_, ofItems_of_first_unsendable hsent hbefore rfl, rfl, message_tooManyDigits⟩
  · have hkey : Text.isLatin (Text.lower e.1).toList = true :=
      isSendable_of_ofItems hh _ (hname he)
    have hlower : Text.isLatin (Text.lower (Text.lower e.1)).toList = true := by
      rwa [Text.lower_lower]
    refine ⟨e.2.texts.reduceOption, _, texts_eq_of_ofItems hh he, values_of_entries hh hkey, ?_, ?_⟩
    · rw [values_of_entries hh hlower, HeaderEntry.under_lower]
    · -- What other entries have for the name stands before and after.
      obtain ⟨before, after, rfl⟩ := List.append_of_mem he
      refine ⟨before.flatMap (HeaderEntry.under e.1), after.flatMap (HeaderEntry.under e.1), ?_⟩
      rw [List.flatMap_append, List.flatMap_cons, HeaderEntry.under, if_pos rfl, List.append_assoc]
  · rintro before name values after rfl source' hs'
    rw [ofSource_of_gives hs']
    refine ⟨fun h hh => ?_, fun hvalues => ofItems_spread (.inr hvalues)⟩
    have hkey : Text.isLatin (Text.lower name).toList = true :=
      isSendable_of_ofItems hh _ (hname (List.mem_append_right before List.mem_cons_self))
    exact (ofItems_spread (.inl hkey)).trans hh

theorem written?_pow {k : Nat} (hk : maxIntDigits ≤ k) :
    (Atom.number (.int (10 ^ k))).written? = none := by
  have hwidth : ¬ Numeral.width (10 ^ k) ≤ maxIntDigits := fun hle =>
    absurd ((Nat.length_toDigits_le_iff (by decide) (by decide)).1 hle)
      (Nat.not_lt.2 (Nat.pow_le_pow_right (by decide) hk))
  rw [Atom.written?, Int.natAbs_pow]
  exact if_neg hwidth

set_option maxRecDepth 20000 in
/-- The Kelvin sign is a `k` in lower case, so that its values come before those of the letter;
    a name that is not Latin-1 is reported before anything after it, and so is an integer with too
    many digits. -/
theorem ofSource_is_multimap_kelvin :
    let entries : List HeaderEntry :=
      [("\u212a", .many [.number (.int 1), .bool true]), ("X", .many []), ("k", .one (.text "x"))]
    let faulty : List HeaderEntry := [("a", .many [.absent, .text "é"]), ("Ω", .one (.text "€"))]
    let huge : List HeaderEntry := [("n", .one (.number (.int (10 ^ 4300)))), ("Ω", .many [])]
    (∃ h, ofSource (.table (entries.map fun e => (.text e.1, e.2))) = .ok h ∧
      h.values "K" = .ok ["1", "True", "x"]) ∧
    ofSource (.items (faulty.map HeaderEntry.item)) = .error (.unencodable "Ω" "ω") ∧
    ofSource (.items (huge.map HeaderEntry.item)) = .error .tooManyDigits := by
  intro entries faulty huge
  have hlatin : unsendable? (sentTexts entries) = none := by decide +kernel
  have hbad : sentTexts faulty =
      [("a", some "a"), ("a", some "None"), ("a", some "é")] ++
        ("Ω", some "ω") :: [("Ω", some "€")] := by decide +kernel
  have hbefore : ∀ u ∈ [("a", some "a"), ("a", some "None"), ("a", some "é")],
      isSendable (Prod.snd u) = true := by decide +kernel
  have hlower : Text.lower "n" = "n" ∧ Text.lower "Ω" = "ω" := by decide +kernel
  -- The digits of the integer are not computed: there are too many of them by its size.
  have hhuge : sentTexts huge = [("n", some "n")] ++ ("n", none) :: [("Ω", some "ω")] := by
    change [("n", some (Text.lower "n")), ("n", Atom.written? _), ("Ω", some (Text.lower "Ω"))] = _
    rw [hlower.1, hlower.2, @written?_pow 4300 (Nat.le_refl _)]
    rfl
  refine ⟨?_, ?_, ?_⟩
  · obtain ⟨hfails, -, -, hvalues, -⟩ := ofSource_is_multimap (.table entries)
    cases hh : ofSource (.table (entries.map fun e => (.text e.1, e.2))) with
    | error e =>
      obtain ⟨t, ht, hbad⟩ := hfails.1 ⟨e, hh⟩
      exact absurd (unsendable?_eq_none.1 hlatin t ht) (by simp [hbad])
    | ok h =>
      have hkey : Text.isLatin (Text.lower "K").toList = true := by decide +kernel
      have hunder : entries.flatMap (HeaderEntry.under "K") = ["1", "True", "x"] := by
        decide +kernel
      exact ⟨h, rfl, by rw [(hvalues h hh).1 "K" hkey, hunder]⟩
  · obtain ⟨e, he, rfl, -⟩ :=
      (ofSource_is_multimap (.items faulty)).2.1 _ _ _ _ hbad hbefore (by decide +kernel)
    exact he
  · obtain ⟨e, he, rfl, -⟩ :=
      (ofSource_is_multimap (.items huge)).2.2.1 _ _ _ hhuge (by decide +kernel)
    exact he

end Headers

end TypedHeaders
