import TypedHeaders.Proofs.ArrayConversion
import TypedHeaders.Proofs.Declaration
import TypedHeaders.Proofs.Integers
import TypedHeaders.Proofs.Lookups

/-!
# Values that come back

Texts, integers and truth values can be sent in headers, and so can lists of them:
each value is written under the header of a parameter, and binding gives it back.
For a single text or list there is one exception: a single empty text is no value
(`Parameter.Carries`).

* `Atom.Carried.cast_plain`: what an atom is written as is cast to that atom;
* `Parameter.bind_of_carries`: a parameter is bound to the value that was written
  under its header;
* `bind_written`: and so are all parameters of a set, if their headers are told
  apart.
-/

namespace TypedHeaders

/-! ## Atoms -/

/-- The atom can be sent: it is of a plain type, and its text is Latin-1 and not too long to be
    cast by the tag. -/
inductive Atom.Carried : Tag → PlainType → Atom → Prop
  | text {s : String} : Text.isLatin s.toList = true → Carried .string .str (.text s)
  | int {n : Int} : Numeral.width n.natAbs ≤ maxIntDigits → Carried .int .int (.number (.int n))
  | bool (b : Bool) : Carried .boolean .bool (.bool b)

namespace Atom.Carried

open Numeral

variable {tag : Tag} {type : PlainType} {a : Atom}

theorem isLatinChar_of_isDigit {c : Char} (hc : c.isDigit = true) : Text.isLatinChar c = true := by
  simp only [Char.isDigit, Bool.and_eq_true, decide_eq_true_eq, UInt32.le_iff_toNat_le] at hc
  have : c.toNat ≤ 57 := hc.2
  simp only [Text.isLatinChar, decide_eq_true_eq]
  omega

theorem isLatin_integerChars (n : Int) : Text.isLatin (integerChars n) = true := by
  have hdigits : Text.isLatin (digits n.natAbs) = true :=
    List.all_eq_true.2 fun c hc => isLatinChar_of_isDigit (isDigit_of_mem_digits hc)
  rw [integerChars]
  split
  · rw [Text.isLatin, List.all_cons, ← Text.isLatin, hdigits]
    rfl
  · exact hdigits

/-- An atom that can be sent is written in Latin-1. -/
theorem isLatin_plain (ha : a.Carried tag type) : Text.isLatin a.plain.toList = true := by
  cases ha with
  | text hs => exact hs
  | int _ => exact (String.toList_ofList (l := integerChars _)).symm ▸ isLatin_integerChars _
  | bool b => cases b <;> decide

/-- An atom that can be sent is written. -/
theorem written?_eq (ha : a.Carried tag type) : a.written? = some a.plain := by
  cases ha with
  | text _ => rfl
  | int hn => exact if_pos hn
  | bool _ => rfl

/-- What an atom is written as is cast to that atom. -/
theorem cast_plain (ha : a.Carried tag type) : tag.cast a.plain = .ok a := by
  cases ha with
  | text _ => rfl
  | int hn => exact map_eq_ok.2 ⟨_, Cast.toInt_integerText hn, rfl⟩
  | bool b => exact map_eq_ok.2 ⟨b, by cases b <;> decide +kernel, rfl⟩

/-- Only the empty text is written as nothing. -/
theorem eq_of_plain_eq_empty (ha : a.Carried tag type) (he : a.plain = "") : a = .text "" := by
  cases ha with
  | text _ => exact congrArg Atom.text he
  | int _ =>
    have hnil : integerChars _ = [] := String.ofList_eq_empty_iff.1 he
    rw [integerChars] at hnil
    split at hnil
    · cases hnil
    · exact absurd hnil Nat.toDigits_ne_nil
  | bool b => cases b <;> exact absurd he (by decide)

/-- An atom of the type is converted to itself. -/
theorem convert_result (ha : a.Carried tag type) :
    (convert (.plain type) [] (.atom a)).result = .ok (.atom a) := by
  rw [convert, TypeExpr.within_nil_result_eq_ok]
  cases ha with
  | text _ =>
    change Except.ok (Value.text (String.ofList (String.toList _))) = _
    rw [String.ofList_toList]
  | int _ => rfl
  | bool _ => rfl

theorem isSome_scalarTag (ha : a.Carried tag type) :
    (TypeExpr.plain type).scalarTag?.isSome = true := by
  cases ha <;> rfl

/-- A list of atoms of the type is converted to itself. -/
theorem convert_list_result {form : CollectionForm} {as : List Atom}
    (hform : form = .list ∨ form = .builtinList) (has : ∀ a ∈ as, a.Carried tag type)
    (hne : as ≠ []) :
    (convert (.collection form (.plain type)) [] (.collection .list (as.map .atom))).result =
      .ok (.collection .list (as.map .atom)) := by
  obtain ⟨a, ha⟩ := List.exists_mem_of_ne_nil as hne
  have hitems : List.Forall₂ (fun v x => (convert (.plain type) [] v).result = .ok x)
      (as.map Value.atom) (as.map Value.atom) := by
    rw [List.forall₂_map_left_iff, List.forall₂_map_right_iff, List.forall₂_same]
    exact fun a ha => (has a ha).convert_result
  rw [convert_array_eq_ok (has a ha).isSome_scalarTag]
  refine ⟨.list, _, _, rfl, form.takes_list, hitems, ?_, ?_, Limits.keptBySize_unlimited _, rfl⟩
  · rcases hform with rfl | rfl <;> exact nofun
  · rcases hform with rfl | rfl <;> rfl

end Atom.Carried

/-! ## Values -/

/-- What is bound where a value is given for a header. -/
def HeaderValue.bound : HeaderValue → Value
  | .one a => .atom a
  | .many as => .collection .list (as.map .atom)

/-- The texts of the values that are given. -/
def HeaderValue.plains : HeaderValue → List String
  | .one a => [a.plain]
  | .many as => as.map Atom.plain

namespace Parameter

/-- No notes of the parameter's type, nor of the parameter, state constraints. -/
def IsUnconstrained (p : Parameter) : Prop :=
  p.type.baseConstraints = [] ∧ constraintsOf p.notes = []

/-- The value is of the parameter's type, and can be sent under its header. A single empty text
    cannot: that is no value. -/
inductive Carries (p : Parameter) : HeaderValue → Prop
  | scalar {tag : Tag} {descriptor : Option RecordDescriptor} {type : PlainType} {a : Atom} :
      p.reading = .scalar tag descriptor → p.type.base = .plain type → a.Carried tag type →
      a ≠ .text "" → p.Carries (.one a)
  | array {tag : Tag} {descriptor : Option RecordDescriptor} {form : CollectionForm}
      {type : PlainType} {as : List Atom} :
      p.reading = .array tag descriptor → form = .list ∨ form = .builtinList →
      p.type.base = .collection form (.plain type) → (∀ a ∈ as, a.Carried tag type) → as ≠ [] →
      as ≠ [.text ""] → p.Carries (.many as)

section Carries

variable {p : Parameter} {v : HeaderValue}

/-- Values that can be sent are all written. -/
theorem Carries.texts_eq (hv : p.Carries v) : v.texts = v.plains.map some := by
  cases hv with
  | scalar _ _ ha _ => exact congrArg ([·]) ha.written?_eq
  | array _ _ _ has _ _ =>
    rw [HeaderValue.texts, HeaderValue.plains, List.map_map]
    exact List.map_congr_left fun a ha => (has a ha).written?_eq

theorem Carries.reduceOption_texts (hv : p.Carries v) : v.texts.reduceOption = v.plains := by
  rw [hv.texts_eq, List.reduceOption, List.filterMap_map, Function.id_comp, List.filterMap_some]

theorem Carries.isLatin (hv : p.Carries v) : ∀ t ∈ v.plains, Text.isLatin t.toList = true := by
  intro t ht
  cases hv with
  | scalar _ _ ha _ => exact List.mem_singleton.1 ht ▸ ha.isLatin_plain
  | array _ _ _ has _ _ =>
    obtain ⟨a, ha, rfl⟩ := List.mem_map.1 ht
    exact (has a ha).isLatin_plain

/-- What can be sent does not come to nothing. -/
theorem Carries.ofValues_plains (hv : p.Carries v) (nilable lenient : Bool) :
    ∃ first rest, v.plains = first :: rest ∧
      Finding.ofValues nilable lenient v.plains = .values first rest := by
  have hsingle {a : Atom} {tag : Tag} {type : PlainType} (ha : a.Carried tag type)
      (hne : a ≠ .text "") : Finding.ofValues nilable lenient [a.plain] = .values a.plain [] :=
    if_neg fun he => hne (ha.eq_of_plain_eq_empty he)
  cases hv with
  | scalar _ _ ha hne => exact ⟨_, [], rfl, hsingle ha hne⟩
  | @array _ _ _ _ as _ _ _ has hne hne' =>
    match as, has, hne, hne' with
    | [a], has, _, hne' =>
      exact ⟨_, [], rfl, hsingle (has a List.mem_cons_self) fun he => hne' (he ▸ rfl)⟩
    | a :: b :: as, _, _, _ => exact ⟨_, _, rfl, rfl⟩

/-- The texts of a value are cast to what is bound. -/
theorem Carries.castTexts_plains (hv : p.Carries v) {first : String} {rest : List String}
    (ht : v.plains = first :: rest) :
    ∃ tag, (∀ h lenient, p.bind h lenient = p.bindTexts tag h lenient) ∧
      castTexts tag p.isArray first rest = .ok v.bound := by
  cases hv with
  | @scalar tag _ _ a hr _ ha _ =>
    refine ⟨tag, fun h lenient => by simp only [bind, hr], ?_⟩
    have harray : p.isArray = false := by rw [isArray, hr]; rfl
    rw [← (List.cons.inj ht).1, castTexts, harray, ha.cast_plain]
    rfl
  | @array tag _ _ _ as hr _ _ has _ _ =>
    refine ⟨tag, fun h lenient => by simp only [bind, hr], ?_⟩
    have harray : p.isArray = true := by rw [isArray, hr]; rfl
    have hcast : tag.castArray (as.map Atom.plain) = .ok as := by
      rw [Tag.castArray, mapM_eq_ok, List.forall₂_map_left_iff, List.forall₂_same]
      exact fun a ha => (has a ha).cast_plain
    rw [castTexts, harray, if_pos rfl, ← ht]
    exact map_eq_ok.2 ⟨as, hcast, rfl⟩

/-- What is bound is of the parameter's type already. -/
theorem Carries.convert_bound (hv : p.Carries v) :
    (TypedHeaders.convert p.type.base [] v.bound).result = .ok v.bound ∧
      p.type.base.isUnion = false ∧ v.bound.isAbsent = false := by
  cases hv with
  | scalar _ ht ha _ =>
    rw [ht]
    refine ⟨ha.convert_result, rfl, ?_⟩
    cases ha <;> rfl
  | array _ hform ht has hne _ =>
    rw [ht]
    exact ⟨Atom.Carried.convert_list_result hform has hne, rfl, rfl⟩

/-- What is bound is kept by the conversion and by the check of the notes. -/
theorem Carries.finish_bound (hv : p.Carries v) (hp : p.IsUnconstrained) :
    p.finish v.bound = .ok v.bound := by
  obtain ⟨hbase, hunion, hpresent⟩ := hv.convert_bound
  obtain ⟨htype, hnotes⟩ := hp
  have hconvert : p.convert v.bound = .ok v.bound := by
    rw [convert, TypeExpr.convert_eq_ok.2]
    rwa [convert_eq_base_of_present [] hunion hpresent, htype]
  have hstripped : (p.restriction.base.annotate p.notes).convert v.bound = .ok v.bound := by
    rw [TypeExpr.convert_eq_ok, convert_annotate, hnotes]
    have hbase := TypeExpr.base_stripOptional hunion
    rwa [restriction, convert_eq_base_of_present _ (hbase ▸ hunion) hpresent, hbase,
      TypeExpr.baseConstraints_stripOptional hunion, htype]
  rw [finish, hconvert]
  change p.restriction.check p.header v.bound = _
  rw [Restriction.check]
  split
  · rfl
  · rw [show p.restriction.notes = p.notes from rfl, hstripped]

/-- A parameter is bound to the value that was written under its header. -/
theorem bind_of_carries {h : Headers} {lenient : Bool} (hv : p.Carries v) (hp : p.IsUnconstrained)
    (hvalues : h.values p.header = .ok v.plains) : p.bind h lenient = .ok v.bound := by
  obtain ⟨first, rest, hplains, hfind⟩ := hv.ofValues_plains p.nilable lenient
  obtain ⟨tag, hbind, hcast⟩ := hv.castTexts_plains hplains
  rw [hbind, bindTexts_eq, Headers.find, hvalues]
  simp only [hfind, hcast]
  exact hv.finish_bound hp

end Carries

end Parameter

/-! ## Sets of parameters -/

/-- A key that is not in the table is put at its end. -/
theorem Entries.put_of_not_mem {α : Type} {key : String} {value : α} {entries : Entries α}
    (hkey : key ∉ entries.map (·.1)) : Entries.put key value entries = entries ++ [(key, value)] := by
  induction entries with
  | nil => rfl
  | cons e entries ih =>
    rw [List.map_cons, List.mem_cons, not_or] at hkey
    rw [Entries.put, if_neg (Ne.symm hkey.1), ih hkey.2, List.cons_append]

/-- The values of parameters of different names are those in their slots. -/
theorem Feed.values_eq_map {ps : List Parameter} {feed : Feed} {value : Parameter → Value}
    (hnames : (ps.map (·.name)).Nodup) (hps : ∀ p ∈ ps, feed[p.slot]? = some (value p)) :
    feed.values ps = .ok (ps.map fun p => (p.name, value p)) := by
  -- The induction is on the parameters that are left, with the entries that are there so far.
  suffices h : ∀ entries : Entries Value, (entries.map (·.1) ++ ps.map (·.name)).Nodup →
      ps.foldlM (fun entries p => return Entries.put p.name (← feed.read p.slot) entries) entries =
        (.ok (entries ++ ps.map fun p => (p.name, value p)) : Except BindError _) from h [] hnames
  clear hnames
  induction ps with
  | nil => intro entries _; rw [List.map_nil, List.append_nil]; rfl
  | cons p ps ih =>
    intro entries hnodup
    rw [List.map_cons] at hnodup
    have hread : feed.read p.slot = .ok (value p) := by
      rw [read, hps p List.mem_cons_self]
    have hput : Entries.put p.name (value p) entries = entries ++ [(p.name, value p)] :=
      Entries.put_of_not_mem fun hmem =>
        List.disjoint_of_nodup_append hnodup hmem List.mem_cons_self
    rw [List.foldlM_cons, hread]
    change ps.foldlM _ (Entries.put p.name (value p) entries) = _
    rw [hput, ih fun q hq => hps q (List.mem_cons_of_mem p hq)]
    · rw [List.append_assoc]
      rfl
    · rwa [List.map_append, List.append_assoc]

/-- The item has the name `key`, in any mixture of cases. -/
def HeaderItem.isNamed (key : String) : HeaderItem → Bool
  | .pair (.text name) _ => Text.lower name = Text.lower key
  | _ => false

section Items

variable {items : List HeaderItem} {ps : List Parameter} {p : Parameter}
  {given : Parameter → HeaderValue}

/-- Only the items of a name have values for it. -/
theorem linesUnder_filter (key : String) (items : List HeaderItem) :
    linesUnder key (items.filter (·.isNamed key)) = linesUnder key items := by
  induction items with
  | nil => rfl
  | cons item items ih =>
    rw [List.filter_cons, linesUnder_cons, ← ih]
    split
    · exact linesUnder_cons key item _
    · rename_i hname
      have hnone : item.valuesFor key = [] := by
        unfold HeaderItem.valuesFor
        split
        · exact if_neg fun h => hname (decide_eq_true h)
        · rfl
      rw [hnone, List.nil_append]

/-- Where a function tells the items of a list apart, only one has its value. -/
theorem filter_eq_singleton {α β : Type} [DecidableEq β] {f : α → β} {l : List α} {a : α}
    (hl : (l.map f).Nodup) (ha : a ∈ l) : (l.filter fun b => f b = f a) = [a] := by
  induction l with
  | nil => cases ha
  | cons b l ih =>
    rw [List.map_cons, List.nodup_cons] at hl
    obtain ⟨hb, hl⟩ := hl
    rcases List.mem_cons.1 ha with rfl | ha
    · have hnone : (l.filter fun b => f b = f a) = [] :=
        List.filter_eq_nil_iff.2 fun b hb' he => hb (of_decide_eq_true he ▸ List.mem_map_of_mem hb')
      rw [List.filter_cons_of_pos (by simp), hnone]
    · have hne : f b ≠ f a := fun he => hb (he ▸ List.mem_map_of_mem ha)
      rw [List.filter_cons_of_neg (by simpa using hne), ih hl ha]

/-- Where every parameter has an item, and their headers are told apart, the values under a header
    are those of its item. -/
theorem linesUnder_of_perm
    (hitems : items.Perm (ps.map fun p => .pair (.text p.header) (given p)))
    (hheaders : (ps.map fun p => Text.lower p.header).Nodup) (hp : p ∈ ps) :
    linesUnder p.header items = (given p).texts.reduceOption := by
  have hone : items.filter (·.isNamed p.header) = [.pair (.text p.header) (given p)] := by
    rw [← List.perm_singleton]
    refine (hitems.filter _).trans (List.Perm.of_eq ?_)
    rw [List.filter_map]
    exact congrArg _ (filter_eq_singleton hheaders hp)
  rw [← linesUnder_filter, hone, linesUnder_cons, HeaderItem.valuesFor, if_pos rfl]
  exact List.append_nil _

/-- Items of which the names and the values are Latin-1 give headers. -/
theorem exists_ofItems
    (hitems : ∀ item ∈ items, ∃ name value, ∃ texts : List String, item = .pair (.text name) value ∧
      Text.isLatin (Text.lower name).toList = true ∧ value.texts = texts.map some ∧
        ∀ t ∈ texts, Text.isLatin t.toList = true) :
    ∃ h, Headers.ofItems items = .ok h := by
  have hitem : ∀ item ∈ items, ∃ entries, Headers.ofItem item = .ok entries := by
    intro item hmem
    obtain ⟨name, value, texts, rfl, hname, hwritten, hlatin⟩ := hitems item hmem
    have hcheck {t : String} (ht : Text.isLatin t.toList = true) :
        Headers.checkLatin name t = .ok t := by
      rw [Headers.checkLatin, if_pos ht]
    have hchecks : ∀ t ∈ texts.map some, ∃ t', Headers.checkWritten name t = .ok t' := by
      rintro _ hmem
      obtain ⟨t, ht, rfl⟩ := List.mem_map.1 hmem
      exact ⟨t, hcheck (hlatin t ht)⟩
    obtain ⟨values, htexts⟩ := exists_mapM_eq_ok hchecks
    rw [← hwritten] at htexts
    rw [Headers.ofItem]
    simp only [hcheck hname, htexts]
    exact ⟨_, rfl⟩
  obtain ⟨entries, hentries⟩ := exists_mapM_eq_ok hitem
  exact ⟨_, bind_eq_ok.2 ⟨entries, hentries, rfl⟩⟩

end Items

namespace BindingSet

/-- Values that are sent under the headers of parameters come back: every parameter of the set is
    bound to its value, if the headers are told apart, whatever case they are written in. The
    values may come in any order, and as themselves or as the texts that they are written as. -/
theorem bind_written (s : BindingSet) {value given : Parameter → HeaderValue}
    {items : List HeaderItem}
    (hitems : items.Perm (s.params.map fun p => .pair (.text p.header) (given p)))
    (hgiven : ∀ p ∈ s.params, (given p).texts = (value p).texts)
    (hvalue : ∀ p ∈ s.params, p.Carries (value p) ∧ p.IsUnconstrained)
    (hlatin : ∀ p ∈ s.params, Text.isLatin (Text.lower p.header).toList = true)
    (hheaders : (s.params.map fun p => Text.lower p.header).Nodup)
    (hnames : (s.params.map (·.name)).Nodup) (hapart : s.params.Pairwise Parameter.Apart) :
    ∃ h, Headers.ofItems items = .ok h ∧ ∀ lenient,
      s.bind h lenient = .ok (s.params.map fun p => (p.name, (value p).bound)) := by
  obtain ⟨h, hh⟩ : ∃ h, Headers.ofItems items = .ok h := by
    refine exists_ofItems fun item hitem => ?_
    obtain ⟨p, hp, rfl⟩ := List.mem_map.1 (hitems.subset hitem)
    exact ⟨_, _, _, rfl, hlatin p hp, (hgiven p hp).trans (hvalue p hp).1.texts_eq,
      (hvalue p hp).1.isLatin⟩
  refine ⟨h, hh, fun lenient => ?_⟩
  -- Each parameter by itself is bound to its value, and filling a feed puts these in their slots.
  have hbind : ∀ p ∈ s.params, p.bind h lenient = .ok (value p).bound := fun p hp => by
    have hvalues : h.values p.header = .ok (value p).plains := by
      rw [Headers.values_eq_linesUnder hh, unencodable?_of_isLatin (hlatin p hp),
        linesUnder_of_perm hitems hheaders hp, hgiven p hp, (hvalue p hp).1.reduceOption_texts]
    exact Parameter.bind_of_carries (hvalue p hp).1 (hvalue p hp).2 hvalues
  have houtcome : ∀ p ∈ s.params, p.outcome h lenient = .ok (value p).bound := fun p hp =>
    (p.outcome_eq_bind h lenient).trans (hbind p hp)
  have hslots : ∀ p ∈ s.params, p.slot + 1 < (Feed.empty s.feedSize).length := fun p hp => by
    have := s.slot_le_feedSize hp
    rw [Feed.empty, List.length_replicate]
    omega
  obtain ⟨new, hnew, hfilled⟩ := Feed.populate_of_ok hapart hslots fun p hp => ⟨_, houtcome p hp⟩
  rw [bind, populate, hnew]
  refine Feed.values_eq_map hnames fun p hp => ?_
  obtain ⟨v, hv, hslot⟩ := hfilled.value p hp
  rw [hslot, ← Except.ok.inj ((houtcome p hp).symm.trans hv)]

set_option maxRecDepth 20000 in
/-- A text with blanks and a comma comes back, and so do two integers, one of which is sent as its
    text; they are sent in the other order. -/
theorem bind_written_note_and_counts :
    let note : Parameter := ⟨"note", "X-Note", 2, .scalar .string, .plain .str, false, []⟩
    let counts : Parameter :=
      ⟨"counts", "counts", 0, .array .int, .collection .list (.plain .int), false, []⟩
    let s : BindingSet := { params := [note, counts] }
    let items : List HeaderItem :=
      [.pair (.text "counts") (.many [.text "-12", .number (.int 7)]),
        .pair (.text "X-Note") (.one (.text " a, b "))]
    ∃ h, Headers.ofItems items = .ok h ∧ ∀ lenient,
      s.bind h lenient =
        .ok [("note", .text " a, b "), ("counts", .collection .list [.int (-12), .int 7])] := by
  intro note counts s items
  let value (p : Parameter) : HeaderValue :=
    if p.name = "note" then .one (.text " a, b ")
    else .many [.number (.int (-12)), .number (.int 7)]
  let given (p : Parameter) : HeaderValue :=
    if p.name = "note" then .one (.text " a, b ") else .many [.text "-12", .number (.int 7)]
  have hitems : items.Perm (s.params.map fun p => .pair (.text p.header) (given p)) :=
    .swap _ _ _
  have hgiven : ∀ p ∈ s.params, (given p).texts = (value p).texts := by decide +kernel
  have hnote : note.Carries (value note) :=
    .scalar rfl rfl (.text (by decide +kernel)) (by decide)
  have hints : ∀ a ∈ [Atom.number (.int (-12)), .number (.int 7)], a.Carried .int .int := by
    intro a ha
    rcases List.mem_pair.1 ha with rfl | rfl
    · exact .int (by decide +kernel)
    · exact .int (by decide +kernel)
  have hcounts : counts.Carries (value counts) :=
    .array rfl (.inl rfl) rfl hints (by decide) (by decide)
  have hvalue : ∀ p ∈ s.params, p.Carries (value p) ∧ p.IsUnconstrained := by
    intro p hp
    rcases List.mem_pair.1 hp with rfl | rfl
    · exact ⟨hnote, rfl, rfl⟩
    · exact ⟨hcounts, rfl, rfl⟩
  exact bind_written s hitems hgiven hvalue (by decide +kernel) (by decide +kernel) (by decide)
    (by decide)

end BindingSet

end TypedHeaders
