import TypedHeaders.Proofs.Binding
import TypedHeaders.Proofs.Populate

/-!
# What binding looks up

Binding asks the headers for the values of some keys: of the header of a scalar or
an array, and of the headers of the fields of a record, whose own header is never
asked for. Each of these is a *lookup*; of the values of an array all count, of
those of anything else the first one and whether it is the only one
(`Lookup.Agrees`). Headers that agree on all lookups of a set are bound to the
same.

Changes of the items that headers are made of often go unnoticed by the lookups
(`HeaderChange`): items of different names change places, ASCII letters of a name
change their case, several values come one by one, and items of a name that is
not looked up come and go.

* `Headers.values_eq_linesUnder`: what a key gets is what the items have for it;
* `Parameter.bind_eq_of_agrees`: a parameter is bound to the same where its
  lookups agree;
* `bind_congr_lookups`: and so is a set.
-/

namespace TypedHeaders

/-! ## Letter case -/

namespace Text

/-- The lower-case mapping, and what it asks of a character's neighbours, do not tell an upper-case
    ASCII letter from the lower-case one. -/
theorem lowerChar_toLower_of_letter : ∀ n < 26, let c := Char.ofNat (65 + n)
    lowerChar c.toLower = lowerChar c ∧ cased.contains c.toLower = cased.contains c ∧
      caseIgnorable.contains c.toLower = caseIgnorable.contains c ∧
      (c.toLower = 'Σ' ↔ c = 'Σ') := by
  decide +kernel

theorem lowerChar_toLower (c : Char) :
    lowerChar c.toLower = lowerChar c ∧ cased.contains c.toLower = cased.contains c ∧
      caseIgnorable.contains c.toLower = caseIgnorable.contains c ∧
      (c.toLower = 'Σ' ↔ c = 'Σ') := by
  by_cases hc : c.isUpper = true
  · have hrange : 65 ≤ c.toNat ∧ c.toNat ≤ 90 := by
      simpa [Char.isUpper, UInt32.le_iff_toNat_le] using hc
    have hletter := lowerChar_toLower_of_letter (c.toNat - 65) (by omega)
    rwa [Nat.add_sub_cancel' hrange.1, Char.ofNat_toNat] at hletter
  · rw [Char.toLower_eq_of_not_isUpper hc]
    exact ⟨rfl, rfl, rfl, Iff.rfl⟩

theorem startsCased_map_toLower (s : List Char) : startsCased (s.map Char.toLower) = startsCased s := by
  induction s with
  | nil => rfl
  | cons c s ih =>
    obtain ⟨-, hcased, hignorable, -⟩ := lowerChar_toLower c
    rw [startsCased, startsCased] at ih ⊢
    rw [List.map_cons, List.dropWhile_cons, List.dropWhile_cons, hignorable]
    cases caseIgnorable.contains c with
    | true => exact ih
    | false => exact hcased

/-- The lower-case form of a text is that of the text with its ASCII letters in lower case. -/
theorem lowerFrom_map_toLower (before : Bool) (s : List Char) :
    lowerFrom before (s.map Char.toLower) = lowerFrom before s := by
  induction s generalizing before with
  | nil => rfl
  | cons c s ih =>
    obtain ⟨hlower, hcased, hignorable, hsigma⟩ := lowerChar_toLower c
    have hends : endsCased before c.toLower = endsCased before c := by
      rw [endsCased, endsCased, hcased, hignorable]
    simp only [List.map_cons, lowerFrom, hlower, hsigma, hends, startsCased_map_toLower, ih]

/-- Texts that differ in the case of ASCII letters have the same lower-case form. -/
theorem lower_congr_case {s t : String} (h : s.toList.map Char.toLower = t.toList.map Char.toLower) :
    lower s = lower t := by
  rw [lower, lower, lowerCase, lowerCase, ← lowerFrom_map_toLower, h, lowerFrom_map_toLower]

end Text

/-! ## Items and their lines -/

/-- The values that an item has for a key, as far as they can be written. -/
def HeaderItem.valuesFor (key : String) : HeaderItem → List String
  | .pair (.text name) value =>
    if Text.lower name = Text.lower key then value.texts.reduceOption else []
  | _ => []

/-- The values that a list of items has for a key, in order. -/
def linesUnder (key : String) (items : List HeaderItem) : List String :=
  items.flatMap (HeaderItem.valuesFor key)

/-- The values that come under a key, which need not be one that can be sent. -/
def Headers.under (h : Headers) (key : String) : List String :=
  (h.entries.filter fun e => e.1 = Text.lower key).map (·.2)

theorem unencodable?_of_isLatin {s : List Char} (hs : Text.isLatin s = true) :
    Text.unencodable? s = none := by
  rw [Text.unencodable?, List.dropWhile_eq_nil_iff.2 (List.all_eq_true.1 hs)]

namespace Headers

variable {h : Headers} {items : List HeaderItem}

theorem values_eq_under (h : Headers) (key : String) :
    h.values key =
      match Text.unencodable? (Text.lower key).toList with
      | some u => .error u
      | none => .ok (h.under key) := rfl

theorem checkLatin_eq_ok {name text t : String} (ht : checkLatin name text = .ok t) : t = text := by
  rw [checkLatin] at ht
  split at ht
  · exact (Except.ok.inj ht).symm
  · cases ht

theorem checkWritten_eq_ok {name t : String} {text : Option String}
    (ht : checkWritten name text = .ok t) : text = some t := by
  cases text with
  | some text => exact congrArg some (checkLatin_eq_ok ht).symm
  | none => cases ht

/-- Texts that are accepted are all written. -/
theorem mapM_checkWritten_eq_ok {name : String} {texts : List (Option String)} {ts : List String}
    (hts : texts.mapM (checkWritten name) = .ok ts) : texts = ts.map some := by
  induction mapM_eq_ok.1 hts with
  | nil => rfl
  | cons ht _ ih => rw [checkWritten_eq_ok ht, ih (mapM_eq_ok.2 ‹_›), List.map_cons]

/-- The entries of an item under a key are the values that it has for the key. -/
theorem valuesFor_of_ofItem {item : HeaderItem} {entries : List (String × String)}
    (hitem : ofItem item = .ok entries) (key : String) :
    (entries.filter fun e => e.1 = Text.lower key).map (·.2) = item.valuesFor key := by
  unfold ofItem at hitem
  split at hitem
  · rename_i name value
    obtain ⟨own, hown, hitem⟩ := bind_eq_ok.1 hitem
    obtain ⟨values, hvalues, hitem⟩ := bind_eq_ok.1 hitem
    cases hitem
    rw [checkLatin_eq_ok hown, HeaderItem.valuesFor, mapM_checkWritten_eq_ok hvalues,
      List.reduceOption, List.filterMap_map, Function.id_comp, List.filterMap_some, List.filter_map,
      List.map_map]
    split
    · rename_i hname
      rw [List.filter_eq_self.2 fun v _ => by simpa using hname]
      exact List.map_id _
    · rename_i hname
      rw [List.filter_eq_nil_iff.2 fun v _ => by simpa using hname]
      rfl
  · cases hitem
  · cases hitem

theorem linesUnder_of_forall₂ {entries : List (List (String × String))}
    (hentries : List.Forall₂ (fun item es => ofItem item = .ok es) items entries) (key : String) :
    under ⟨entries.flatten⟩ key = linesUnder key items := by
  induction hentries with
  | nil => rfl
  | cons hitem _ ih =>
    rw [under] at ih ⊢
    rw [List.flatten_cons, List.filter_append, List.map_append, valuesFor_of_ofItem hitem, ih,
      linesUnder, linesUnder, List.flatMap_cons]

theorem under_of_ofItems (hh : ofItems items = .ok h) (key : String) :
    h.under key = linesUnder key items := by
  obtain ⟨entries, hentries, hflatten⟩ := bind_eq_ok.1 hh
  rw [← Except.ok.inj hflatten]
  exact linesUnder_of_forall₂ (mapM_eq_ok.1 hentries) key

/-- What is looked up is what the items have for the key, if it is a key that can be sent. -/
theorem values_eq_linesUnder (hh : ofItems items = .ok h) (key : String) :
    h.values key =
      match Text.unencodable? (Text.lower key).toList with
      | some u => .error u
      | none => .ok (linesUnder key items) := by
  rw [values_eq_under, under_of_ofItems hh]

/-- A key for which the items have a value can be sent, since it is the name of an item. -/
theorem values_of_linesUnder_ne_nil (hh : ofItems items = .ok h) {key : String}
    (hne : linesUnder key items ≠ []) : h.values key = .ok (linesUnder key items) := by
  suffices hkey : Text.isLatin (Text.lower key).toList = true by
    rw [values_eq_linesUnder hh, unencodable?_of_isLatin hkey]
  obtain ⟨entries, hentries, -⟩ := bind_eq_ok.1 hh
  obtain ⟨item, hitem, hvalues⟩ : ∃ item ∈ items, item.valuesFor key ≠ [] := by
    simpa [linesUnder] using hne
  obtain ⟨es, -, hes⟩ := exists_of_forall₂ (mapM_eq_ok.1 hentries).flip hitem
  unfold HeaderItem.valuesFor at hvalues
  split at hvalues
  · rename_i name value
    split at hvalues
    · rename_i hname
      obtain ⟨own, hown, -⟩ := bind_eq_ok.1 hes
      rw [checkLatin, hname] at hown
      split at hown
      · assumption
      · cases hown
    · exact absurd rfl hvalues
  · exact absurd rfl hvalues

end Headers

/-! ## Unnoticed changes -/

/-- A change of items of which nothing can be seen under `keys`. -/
inductive HeaderChange (keys : List String) : List HeaderItem → List HeaderItem → Prop
  /-- Items of different names that follow each other change places. -/
  | swap (before after : List HeaderItem) {name name' : String} (value value' : HeaderValue) :
      Text.lower name ≠ Text.lower name' →
      HeaderChange keys
        (before ++ .pair (.text name) value :: .pair (.text name') value' :: after)
        (before ++ .pair (.text name') value' :: .pair (.text name) value :: after)
  /-- ASCII letters of a name change their case. -/
  | recase (before after : List HeaderItem) {name name' : String} (value : HeaderValue) :
      name.toList.map Char.toLower = name'.toList.map Char.toLower →
      HeaderChange keys (before ++ .pair (.text name) value :: after)
        (before ++ .pair (.text name') value :: after)
  /-- Several values come one by one. -/
  | spread (before after : List HeaderItem) (name : String) (values : List Atom) :
      HeaderChange keys (before ++ .pair (.text name) (.many values) :: after)
        (before ++ (values.map fun a => .pair (.text name) (.one a)) ++ after)
  /-- An item of a name that is not looked up is added. -/
  | add (before after : List HeaderItem) {name : String} (value : HeaderValue) :
      (∀ key ∈ keys, Text.lower name ≠ Text.lower key) →
      HeaderChange keys (before ++ after) (before ++ .pair (.text name) value :: after)

section Changes

variable {keys : List String} {key : String} {items items' : List HeaderItem}

theorem linesUnder_append (key : String) (items items' : List HeaderItem) :
    linesUnder key (items ++ items') = linesUnder key items ++ linesUnder key items' :=
  List.flatMap_append

theorem linesUnder_cons (key : String) (item : HeaderItem) (items : List HeaderItem) :
    linesUnder key (item :: items) = item.valuesFor key ++ linesUnder key items :=
  List.flatMap_cons

theorem linesUnder_spread (key name : String) (values : List Atom) :
    linesUnder key (values.map fun a => .pair (.text name) (.one a)) =
      HeaderItem.valuesFor key (.pair (.text name) (.many values)) := by
  induction values with
  | nil => simp [linesUnder, HeaderItem.valuesFor, HeaderValue.texts]
  | cons a values ih =>
    rw [List.map_cons, linesUnder_cons, ih]
    simp only [HeaderItem.valuesFor, HeaderValue.texts]
    split
    · exact (List.reduceOption_append [a.written?] _).symm
    · rfl

theorem HeaderChange.linesUnder_eq (hc : HeaderChange keys items items') (hkey : key ∈ keys) :
    linesUnder key items = linesUnder key items' := by
  cases hc with
  | swap before after value value' hne =>
    simp only [linesUnder_append, linesUnder_cons, HeaderItem.valuesFor]
    split
    · rename_i hname
      rw [if_neg fun hname' => hne (hname.trans hname'.symm), List.nil_append, List.nil_append]
    · rw [List.nil_append, List.nil_append]
  | recase before after value hcase =>
    simp only [linesUnder_append, linesUnder_cons, HeaderItem.valuesFor, Text.lower_congr_case hcase]
  | spread before after name values =>
    rw [linesUnder_append, linesUnder_append, linesUnder_append, linesUnder_cons, linesUnder_spread,
      List.append_assoc]
  | add before after value hname =>
    simp only [linesUnder_append, linesUnder_cons, HeaderItem.valuesFor, if_neg (hname key hkey),
      List.nil_append]

/-- However many changes are made and undone, the values of the keys stay. -/
theorem linesUnder_congr_changes (hc : Relation.EqvGen (HeaderChange keys) items items')
    (hkey : key ∈ keys) : linesUnder key items = linesUnder key items' := by
  induction hc with
  | rel _ _ hc => exact hc.linesUnder_eq hkey
  | refl _ => rfl
  | symm _ _ _ ih => exact ih.symm
  | trans _ _ _ _ _ ih ih' => exact ih.trans ih'

end Changes

/-! ## Lookups -/

/-- What is looked up: the values of a key, of which all count or the first one only. -/
structure Lookup where
  key : String
  isArray : Bool

/-- A lookup does not tell these values apart. Of anything but an array only the first value
    counts, and whether it is the only one: a single empty text is no value. -/
def Lookup.Agrees (l : Lookup) (values values' : List String) : Prop :=
  values = values' ∨
    l.isArray = false ∧ values.head? = values'.head? ∧ (values.length = 1 ↔ values'.length = 1)

/-- What is looked up for a field of a record. -/
def FieldDescriptor.lookup (f : FieldDescriptor) : Lookup := ⟨f.headerKey, f.isArray⟩

/-- What is looked up for a parameter; the header of a record is not. -/
def Parameter.lookups (p : Parameter) : List Lookup :=
  match p.reading with
  | .scalar _ _ | .array _ _ => [⟨p.header, p.isArray⟩]
  | .record r _ => r.fields.map FieldDescriptor.lookup

/-- What is looked up for the parameters of a set. -/
def BindingSet.lookups (s : BindingSet) : List Lookup := s.params.flatMap Parameter.lookups

/-- The keys that are looked up for the parameters of a set. -/
def BindingSet.keys (s : BindingSet) : List String := s.lookups.map Lookup.key

section Lookups

variable {h h' : Headers} {l : Lookup} {values values' : List String}
  {nilable lenient : Bool} {f : FieldDescriptor} {fs : List FieldDescriptor}
  {assembled : Entries Value} {p : Parameter} {ps : List Parameter}

/-- Values that agree come to the same, or the first one is the same and no other counts. -/
theorem Finding.ofValues_of_agrees (hl : l.Agrees values values') :
    ofValues nilable lenient values = ofValues nilable lenient values' ∨
      l.isArray = false ∧ ∃ first rest rest',
        ofValues nilable lenient values = .values first rest ∧
          ofValues nilable lenient values' = .values first rest' := by
  rcases hl with rfl | ⟨harray, hhead, hlength⟩
  · exact .inl rfl
  · match values, values', hhead, hlength with
    | [], [], _, _ => exact .inl rfl
    | [v], [w], hhead, _ =>
      rw [Option.some.inj hhead]
      exact .inl rfl
    | [_], _ :: _ :: _, _, hlength => simp at hlength
    | _ :: _ :: _, [_], _, hlength => simp at hlength
    | v :: _ :: _, w :: _ :: _, hhead, _ =>
      rw [Option.some.inj hhead]
      exact .inr ⟨harray, _, _, _, rfl, rfl⟩

theorem Headers.find_of_agrees (hl : l.Agrees (h.under l.key) (h'.under l.key)) :
    h.find l.key nilable lenient = h'.find l.key nilable lenient ∨
      l.isArray = false ∧ ∃ first rest rest',
        h.find l.key nilable lenient = .ok (.values first rest) ∧
          h'.find l.key nilable lenient = .ok (.values first rest') := by
  simp only [find, values_eq_under]
  cases Text.unencodable? (Text.lower l.key).toList with
  | some u => exact .inl rfl
  | none => simpa only [Except.ok.injEq] using Finding.ofValues_of_agrees hl

/-- A field is read the same where its lookup agrees. -/
theorem FieldDescriptor.read_congr_lookup
    (hf : f.lookup.Agrees (h.under f.headerKey) (h'.under f.headerKey)) :
    f.read h lenient = f.read h' lenient := by
  rw [read_eq, read_eq]
  rcases Headers.find_of_agrees (l := f.lookup) hf with hfind | ⟨harray, first, rest, rest', hv, hv'⟩
  · rw [show h.find f.headerKey f.nilable lenient = _ from hfind]
    rfl
  · rw [show h.find f.headerKey f.nilable lenient = _ from hv,
      show h'.find f.headerKey f.nilable lenient = _ from hv']
    simp only [castTexts, show f.isArray = false from harray]
    rfl

theorem assembleFields_congr_lookups
    (hfs : ∀ f ∈ fs, f.lookup.Agrees (h.under f.headerKey) (h'.under f.headerKey)) :
    assembleFields h nilable lenient assembled fs =
      assembleFields h' nilable lenient assembled fs := by
  induction fs generalizing assembled with
  | nil => rfl
  | cons f fs ih =>
    have hf : f.read h lenient = f.read h' lenient :=
      FieldDescriptor.read_congr_lookup (hfs f List.mem_cons_self)
    have hrest : ∀ assembled, assembleFields h nilable lenient assembled fs =
        assembleFields h' nilable lenient assembled fs := fun _ =>
      ih fun g hg => hfs g (List.mem_cons_of_mem f hg)
    simp only [assembleFields_cons, hf, hrest]

theorem Parameter.bindTexts_congr_lookup {tag : Tag}
    (hp : Lookup.Agrees ⟨p.header, p.isArray⟩ (h.under p.header) (h'.under p.header)) :
    p.bindTexts tag h lenient = p.bindTexts tag h' lenient := by
  rw [bindTexts_eq, bindTexts_eq]
  rcases Headers.find_of_agrees hp with hfind | ⟨harray, first, rest, rest', hv, hv'⟩
  · rw [hfind]
  · rw [hv, hv']
    simp only [castTexts, show p.isArray = false from harray]
    rfl

/-- A parameter is bound to the same where its lookups agree. -/
theorem Parameter.bind_eq_of_agrees
    (hp : ∀ l ∈ p.lookups, l.Agrees (h.under l.key) (h'.under l.key)) :
    p.bind h lenient = p.bind h' lenient := by
  cases hr : p.reading with
  | scalar tag _ | array tag _ =>
    simp only [lookups, hr, List.mem_singleton, forall_eq] at hp
    simp only [bind, hr]
    exact bindTexts_congr_lookup hp
  | record r tag =>
    simp only [lookups, hr, List.mem_map, forall_exists_index, and_imp, forall_apply_eq_imp_iff₂]
      at hp
    rw [bind_of_record hr, bind_of_record hr, RecordDescriptor.assemble, RecordDescriptor.assemble,
      assembleFields_congr_lookups hp]

/-- Parameters that are bound to the same under two headers fill a feed in the same way. -/
theorem Feed.populate_congr {feed : Feed}
    (hps : ∀ p ∈ ps, p.bind h lenient = p.bind h' lenient) :
    feed.populate h lenient ps = feed.populate h' lenient ps := by
  induction ps generalizing feed with
  | nil => rfl
  | cons p ps ih =>
    have hrest : ∀ feed : Feed, feed.populate h lenient ps = feed.populate h' lenient ps := fun _ =>
      ih fun q hq => hps q (List.mem_cons_of_mem p hq)
    simp only [populate, hps p List.mem_cons_self, hrest]

/-- A set is bound into a feed in the same way where its lookups agree. -/
theorem BindingSet.populate_congr_lookups (s : BindingSet) (feed : Feed)
    (hs : ∀ l ∈ s.lookups, l.Agrees (h.under l.key) (h'.under l.key)) :
    s.populate h lenient feed = s.populate h' lenient feed :=
  Feed.populate_congr fun p hp => Parameter.bind_eq_of_agrees fun l hl =>
    hs l (List.mem_flatMap.2 ⟨p, hp, hl⟩)

end Lookups

namespace BindingSet

/-- The result of binding a set is the same for two lists of items that have the same values for
    all its keys; in particular, for lists that come from each other by changes of which nothing
    can be seen under its keys. Of the values of a key that no array is bound from, those after the
    first do not count, except that the first may be the only one. -/
theorem bind_congr_lookups (s : BindingSet) (lenient : Bool) {items items' : List HeaderItem}
    {h h' : Headers} (hh : Headers.ofItems items = .ok h) (hh' : Headers.ofItems items' = .ok h') :
    ((∀ key ∈ s.keys, linesUnder key items = linesUnder key items') →
      s.bind h lenient = s.bind h' lenient) ∧
    (Relation.EqvGen (HeaderChange s.keys) items items' →
      s.bind h lenient = s.bind h' lenient) ∧
    ((∀ l ∈ s.lookups, l.Agrees (linesUnder l.key items) (linesUnder l.key items')) →
      s.bind h lenient = s.bind h' lenient) := by
  have hagree (hs : ∀ l ∈ s.lookups, l.Agrees (linesUnder l.key items) (linesUnder l.key items')) :
      s.bind h lenient = s.bind h' lenient := by
    simp only [← Headers.under_of_ofItems hh, ← Headers.under_of_ofItems hh'] at hs
    rw [bind, bind, populate_congr_lookups s _ hs]
  have hsame (hs : ∀ key ∈ s.keys, linesUnder key items = linesUnder key items') :
      s.bind h lenient = s.bind h' lenient :=
    hagree fun l hl => .inl (hs l.key (List.mem_map_of_mem hl))
  exact ⟨hsame, fun hc => hsame fun _ hkey => linesUnder_congr_changes hc hkey, hagree⟩

set_option maxRecDepth 20000 in
/-- The lines of a text and of a record's field change places, a name is written in another case,
    and a line under the header of the record is added; or the second value of the text is another
    one, with a third after it. -/
theorem bind_congr_lookups_record :
    let user : Parameter := ⟨"user", "x-user", 0, .scalar .string, .plain .str, false, []⟩
    let span : Parameter := ⟨"span", "span", 2, .record ⟨[⟨"n", "n", .int, true, false⟩]⟩,
      .plain .dict, false, []⟩
    let s : BindingSet := { params := [user, span] }
    let line (name value : String) : HeaderItem := .pair (.text name) (.one (.text value))
    let items := [line "n" "1", line "x-user" "a", line "x-user" "b"]
    let moved := [line "X-User" "a", line "n" "1", line "span" "7", line "x-user" "b"]
    let replaced := [line "n" "1", line "x-user" "a", line "x-user" "c", line "x-user" "d"]
    ∃ h h' h'', Headers.ofItems items = .ok h ∧ Headers.ofItems moved = .ok h' ∧
      Headers.ofItems replaced = .ok h'' ∧
      s.bind h false = .ok [("user", .text "a"), ("span", .dict [("n", .collection .list [.int 1])])] ∧
      s.bind h false = s.bind h' false ∧ s.bind h false = s.bind h'' false := by
  intro user span s line items moved replaced
  let h : Headers := ⟨[("n", "1"), ("x-user", "a"), ("x-user", "b")]⟩
  let h' : Headers := ⟨[("x-user", "a"), ("n", "1"), ("span", "7"), ("x-user", "b")]⟩
  let h'' : Headers := ⟨[("n", "1"), ("x-user", "a"), ("x-user", "c"), ("x-user", "d")]⟩
  have hh : Headers.ofItems items = .ok h := by decide +kernel
  have hh' : Headers.ofItems moved = .ok h' := by decide +kernel
  have hh'' : Headers.ofItems replaced = .ok h'' := by decide +kernel
  have hn : Text.lower "n" = "n" := by decide +kernel
  have huser : Text.lower "x-user" = "x-user" := by decide +kernel
  have hspan : Text.lower "span" = "span" := by decide +kernel
  have huserBind : user.bind h false = .ok (.text "a") := by
    have hvalues : h.values "x-user" = .ok ["a", "b"] := by decide +kernel
    change user.bindTexts .string h false = _
    rw [Parameter.bindTexts_eq, Headers.find, hvalues]
    rfl
  have hspanBind : span.bind h false = .ok (.dict [("n", .collection .list [.int 1])]) := by
    have hvalues : h.values "n" = .ok ["1"] := by decide +kernel
    rw [Parameter.bind_of_record rfl]
    simp only [RecordDescriptor.assemble, assembleFields_cons, FieldDescriptor.read_eq,
      Headers.find, hvalues]
    rfl
  have hbind : s.bind h false =
      .ok [("user", .text "a"), ("span", .dict [("n", .collection .list [.int 1])])] := by
    rw [bind, populate, Feed.populate_cons_of_ok huserBind (by decide),
      Feed.populate_cons_of_ok hspanBind (by decide)]
    rfl
  have hlookups : s.lookups = [⟨"x-user", false⟩, ⟨"n", true⟩] := rfl
  have hkeys : s.keys = ["x-user", "n"] := rfl
  have hadd : ∀ key ∈ s.keys, Text.lower "span" ≠ Text.lower key := by
    rw [hkeys, hspan]
    simp [hn, huser]
  have hchanges : Relation.EqvGen (HeaderChange s.keys) items moved :=
    .trans _ [line "x-user" "a", line "n" "1", line "x-user" "b"] _
      (.rel _ _ (.swap [] [line "x-user" "b"] _ _ (by rw [hn, huser]; decide)))
      (.trans _ [line "X-User" "a", line "n" "1", line "x-user" "b"] _
        (.rel _ _ (.recase [] [line "n" "1", line "x-user" "b"] _ (by decide)))
        (.rel _ _ (.add [line "X-User" "a", line "n" "1"] [line "x-user" "b"] _ hadd)))
  have hagrees : ∀ l ∈ s.lookups, l.Agrees (linesUnder l.key items) (linesUnder l.key replaced) := by
    simp [hlookups, Lookup.Agrees, linesUnder, HeaderItem.valuesFor, items, replaced, line, hn, huser,
      HeaderValue.texts, Atom.written?, Atom.plain, List.reduceOption]
  exact ⟨h, h', h'', hh, hh', hh'', hbind, (bind_congr_lookups s false hh hh').2.1 hchanges,
    (bind_congr_lookups s false hh hh'').2.2 hagrees⟩

end BindingSet

end TypedHeaders
