import TypedHeaders.Proofs.Declaration
import TypedHeaders.Proofs.Populate

/-!
# Records from their headers

A field of a record is assembled under one name, and looked for under another:
the binder writes under the alias of a model's field or else its name, and the
conversion reads under the validation alias, the alias or the name
(`Field.key`). Where fields are assembled under one name, the last one counts.
So what a field holds is given by the field that is assembled last under its key
(`RecordDescriptor.giver?`).

* `populate_record`: a field that is given by itself holds what its own header is
  converted to; a field that another one gives holds what the header of that one
  is converted to; and a field that none gives holds its fallback, or is left out.
* `populate_record_keeps_fallback`: so a header may be there, and the fallback be
  held all the same.
-/

namespace TypedHeaders

/-! ## Tables -/

section Tables

variable {α : Type} {key k : String} {v : α} {entries : Entries α}

theorem lookup_cons_of_ne (hkey : key ≠ k) :
    List.lookup key ((k, v) :: entries) = entries.lookup key := by
  rw [List.lookup_cons, beq_eq_false_iff_ne.2 hkey]

theorem lookup_put :
    (Entries.put k v entries).lookup key = if key = k then some v else entries.lookup key := by
  induction entries with
  | nil =>
    rw [Entries.put]
    split
    · rename_i hkey
      rw [hkey, List.lookup_cons_self]
    · rename_i hkey
      exact lookup_cons_of_ne hkey
  | cons e entries ih =>
    obtain ⟨k', v'⟩ := e
    rw [Entries.put]
    by_cases hk : k' = k
    · rw [if_pos hk, hk]
      split
      · rename_i hkey
        rw [hkey, List.lookup_cons_self]
      · rename_i hkey
        rw [lookup_cons_of_ne hkey, lookup_cons_of_ne hkey]
    · rw [if_neg hk]
      by_cases hkey : key = k'
      · rw [hkey, List.lookup_cons_self, if_neg hk, List.lookup_cons_self]
      · rw [lookup_cons_of_ne hkey, lookup_cons_of_ne hkey, ih]

end Tables

/-! ## Which field gives a value -/

/-- The field that is assembled last under the key, if there is one. -/
def RecordDescriptor.giver? (r : RecordDescriptor) (key : String) : Option FieldDescriptor :=
  r.fields.findRev? fun d => d.name = key

section Assembling

variable {h : Headers} {nilable lenient : Bool} {assembled entries : Entries Value}
  {ds : List FieldDescriptor} {d : FieldDescriptor} {key : String}

/-- An entry is given by the last field that is assembled under its key. -/
theorem lookup_of_assembleFields
    (ha : assembleFields h nilable lenient assembled ds = .ok (some entries)) :
    (∃ d v, ds.findRev? (fun d => d.name = key) = some d ∧ d.read h lenient = .ok (some v) ∧
        entries.lookup key = some v) ∨
      (ds.findRev? fun d => d.name = key) = none ∧ entries.lookup key = assembled.lookup key := by
  induction ds generalizing assembled with
  | nil => cases ha; exact .inr ⟨rfl, rfl⟩
  | cons d ds ih =>
    obtain ⟨v, hv, ha⟩ := assembleFields_cons_eq_some.1 ha
    rw [List.findRev?]
    rcases ih ha with ⟨g, w, hg, hw, hlookup⟩ | ⟨hnone, hlookup⟩
    · exact .inl ⟨g, w, by rw [hg], hw, hlookup⟩
    · -- No later field is assembled under the key, so that the first one decides.
      rw [hnone]
      rw [lookup_put] at hlookup
      by_cases hd : d.name = key
      · rw [if_pos hd.symm] at hlookup
        exact .inl ⟨d, v, if_pos (decide_eq_true hd), hv, hlookup⟩
      · rw [if_neg (Ne.symm hd)] at hlookup
        exact .inr ⟨if_neg (by simpa using hd), hlookup⟩

theorem lookup_of_giver {r : RecordDescriptor}
    (ha : r.assemble h nilable lenient = .ok (some entries)) (hd : r.giver? key = some d) :
    ∃ v, d.read h lenient = .ok (some v) ∧ entries.lookup key = some v := by
  rcases lookup_of_assembleFields ha with ⟨g, v, hg, hv, hlookup⟩ | ⟨hnone, -⟩
  · obtain rfl : d = g := Option.some.inj (hd.symm.trans hg)
    exact ⟨v, hv, hlookup⟩
  · cases hd.symm.trans hnone

theorem lookup_of_no_giver {r : RecordDescriptor}
    (ha : r.assemble h nilable lenient = .ok (some entries)) (hd : r.giver? key = none) :
    entries.lookup key = none := by
  rcases lookup_of_assembleFields ha with ⟨g, v, hg, -, -⟩ | ⟨-, hlookup⟩
  · cases hd.symm.trans hg
  · exact hlookup

end Assembling

/-! ## What the fields hold -/

section Cells

variable {head : RecordHead} {entries : Entries Value} {fields : List Field}
  {cells : List ConvertedField} {f : Field}

theorem Entries.ofFields_cons (c : ConvertedField) (cells : List ConvertedField) :
    Entries.ofFields (c :: cells) =
      (c.value.map (c.name, ·)).toList ++ Entries.ofFields cells := by
  rw [ofFields, List.filterMap_cons]
  cases c.value <;> rfl

theorem name_of_mem_ofFields
    (hcells : FilledFrom head entries fields cells)
    {e : String × Value} (he : e ∈ Entries.ofFields cells) : e.1 ∈ fields.map Field.name := by
  obtain ⟨c, hc, he⟩ := List.mem_filterMap.1 he
  obtain ⟨v, -, rfl⟩ := Option.map_eq_some_iff.1 he
  obtain ⟨f, hf, hfill⟩ := exists_of_forall₂ hcells hc
  exact List.mem_map.2 ⟨f, hf, (Field.name_of_fill hfill).symm⟩

/-- Under the name of a field stands what the field holds. -/
theorem lookup_ofFields (hnames : (fields.map Field.name).Nodup)
    (hcells : FilledFrom head entries fields cells)
    (hf : f ∈ fields) :
    ∃ c, (f.fill head entries).result = .ok c ∧
      (Entries.ofFields cells).lookup f.name = c.value := by
  induction hcells with
  | nil => cases hf
  | @cons g c fields cells hc hcells ih =>
    rw [List.map_cons, List.nodup_cons] at hnames
    have hname := Field.name_of_fill hc
    rw [Entries.ofFields_cons]
    rcases List.mem_cons.1 hf with rfl | hf
    · refine ⟨c, hc, ?_⟩
      cases hv : c.value with
      | some v =>
        rw [hname]
        exact List.lookup_cons_self
      | none =>
        -- The field is left out, and no other one has its name.
        refine List.lookup_eq_none_iff.2 fun e he => bne_iff_ne.2 fun heq => ?_
        exact hnames.1 (heq ▸ name_of_mem_ofFields hcells he)
    · obtain ⟨c', hc', hlookup⟩ := ih hnames.2 hf
      refine ⟨c', hc', ?_⟩
      rw [← hlookup]
      have hne : f.name ≠ g.name := fun heq => hnames.1 (List.mem_map.2 ⟨f, hf, heq⟩)
      cases c.value with
      | some v =>
        rw [hname]
        exact lookup_cons_of_ne hne
      | none => rfl

/-- A field with a value under its key holds what the value is converted to. -/
theorem lookup_of_given (hnames : (fields.map Field.name).Nodup)
    (hcells : FilledFrom head entries fields cells)
    (hf : f ∈ fields) {v : Value} (hv : entries.lookup f.key = some v) :
    ∃ w, (f.convert head.kind v).result = .ok w ∧
      (Entries.ofFields cells).lookup f.name = some w := by
  obtain ⟨c, hc, hlookup⟩ := lookup_ofFields hnames hcells hf
  obtain ⟨w, hw, rfl⟩ := (Field.fill_of_some hv).1 hc
  exact ⟨w, hw, hlookup⟩

/-- A field without a value under its key holds its fallback. -/
theorem lookup_of_not_given (hnames : (fields.map Field.name).Nodup)
    (hcells : FilledFrom head entries fields cells)
    (hf : f ∈ fields) (hv : entries.lookup f.key = none) :
    (Entries.ofFields cells).lookup f.name = f.fallback := by
  obtain ⟨c, hc, hlookup⟩ := lookup_ofFields hnames hcells hf
  obtain ⟨-, rfl⟩ := (Field.fill_of_none hv).1 hc
  exact hlookup

end Cells

/-! ## What the fields receive -/

/-- The value is what a field receives from the header that `d` reads: what the value read there is
    converted to, and, if `again` says so, what that is converted to. -/
def Field.Receives (f : Field) (kind : RecordKind) (again : Bool) (d : FieldDescriptor)
    (h : Headers) (lenient : Bool) (w : Value) : Prop :=
  ∃ raw x, d.read h lenient = .ok (some raw) ∧ (f.convert kind raw).result = .ok x ∧
    if again then (f.convert kind x).result = .ok w else w = x

/-- What the fields of a record hold, which is bound from the headers `h`, and `again` says whether
    it is converted twice. -/
structure Received (head : RecordHead) (fields : List Field) (r : RecordDescriptor) (again : Bool)
    (h : Headers) (lenient : Bool) (stored : Entries Value) : Prop where
  /-- A field that is given by itself receives from its own header; nothing, if it is resolved as
      nothing. -/
  own : ∀ f d, (f, d) ∈ fields.zip r.fields → r.giver? f.key = some d →
    ∃ w, stored.lookup f.name = some w ∧ f.Receives head.kind again d h lenient w ∧
      (d.read h lenient = .ok (some .absent) → w = .absent)
  /-- A field that another one gives receives from the header of that one. -/
  other : again = false → ∀ f ∈ fields, ∀ d, r.giver? f.key = some d →
    ∃ w, stored.lookup f.name = some w ∧ f.Receives head.kind false d h lenient w
  /-- A field that none gives holds its fallback, or is left out. -/
  fallback : ∀ f ∈ fields, r.giver? f.key = none → stored.lookup f.name = f.fallback

section Received

variable {head : RecordHead} {fields : List Field} {r : RecordDescriptor} {converts : Bool}
  {h : Headers} {nilable lenient : Bool} {entries : Entries Value}
  {cells cells' : List ConvertedField} {f : Field} {d : FieldDescriptor}

theorem describe_of_mem_zip
    (hds : r.Describes head converts fields)
    (hfd : (f, d) ∈ fields.zip r.fields) : f.describe head.kind converts = .ok d :=
  (List.forall₂_iff_zip.1 hds).2 hfd

theorem name_of_giver {key : String} (hd : r.giver? key = some d) : d.name = key := by
  rw [RecordDescriptor.giver?, List.findRev?_eq_find?_reverse] at hd
  have hname := List.find?_some hd
  exact of_decide_eq_true hname

/-- Nothing is converted to nothing, where a field may be resolved as that. -/
theorem Field.eq_absent_of_convert {w : Value} (hd : f.describe head.kind converts = .ok d)
    (hn : d.nilable = true) (hw : (f.convert head.kind .absent).result = .ok w) : w = .absent := by
  obtain ⟨hplain, hnilable, -⟩ := Field.describe_eq_ok hd
  rw [Field.convert, convert_absent _ (hnilable ▸ hn)
    (TypeExpr.isNothing_of_isPlainlyBound hplain)] at hw
  exact (Converted.pure_result_eq_ok.1 hw).symm

/-- The fields of a record that is converted once. -/
theorem received_once (hnames : (fields.map Field.name).Nodup)
    (hds : r.Describes head converts fields)
    (ha : r.assemble h nilable lenient = .ok (some entries))
    (hcells : FilledFrom head entries fields cells) :
    Received head fields r false h lenient (.ofFields cells) where
  own f d hfd hg := by
    obtain ⟨raw, hraw, hlookup⟩ := lookup_of_giver ha hg
    obtain ⟨w, hw, hstored⟩ := lookup_of_given hnames hcells (List.of_mem_zip hfd).1 hlookup
    refine ⟨w, hstored, ⟨raw, w, hraw, hw, rfl⟩, fun habsent => ?_⟩
    obtain rfl : raw = .absent := Option.some.inj (Except.ok.inj (hraw.symm.trans habsent))
    exact Field.eq_absent_of_convert (describe_of_mem_zip hds hfd) (d.nilable_of_read habsent) hw
  other _ f hf d hg := by
    obtain ⟨raw, hraw, hlookup⟩ := lookup_of_giver ha hg
    obtain ⟨w, hw, hstored⟩ := lookup_of_given hnames hcells hf hlookup
    exact ⟨w, hstored, raw, w, hraw, hw, rfl⟩
  fallback f hf hg := lookup_of_not_given hnames hcells hf (lookup_of_no_giver ha hg)

/-- The fields of a dictionary that is converted twice: the second time under its own keys. -/
theorem received_twice (hk : head.kind = .typedDict) (hnames : (fields.map Field.name).Nodup)
    (hds : r.Describes head converts fields)
    (hcells : FilledFrom head entries fields cells)
    (hcells' : FilledFrom head (.ofFields cells) fields cells')
    (hfirst : Received head fields r false h lenient (.ofFields cells)) :
    Received head fields r true h lenient (.ofFields cells') where
  own f d hfd hg := by
    have hd := describe_of_mem_zip hds hfd
    -- Here a field is assembled under its name, so that its name is its key.
    have hname : f.name = f.key := by
      rw [← name_of_giver hg, (Field.describe_eq_ok hd).2.2, hk]
      rfl
    obtain ⟨x, hx, ⟨raw, y, hraw, hy, hxy⟩, habsent⟩ := hfirst.own f d hfd hg
    obtain rfl : x = y := hxy
    rw [hname] at hx
    obtain ⟨w, hw, hstored⟩ := lookup_of_given hnames hcells' (List.of_mem_zip hfd).1 hx
    refine ⟨w, hstored, ⟨raw, x, hraw, hy, hw⟩, fun hr => ?_⟩
    obtain rfl := habsent hr
    exact Field.eq_absent_of_convert hd (d.nilable_of_read hr) hw
  other h := by cases h
  fallback f hf hg := by
    refine lookup_of_not_given hnames hcells' hf (List.lookup_eq_none_iff.2 fun e he => ?_)
    -- An entry under the key would be that of a field of that name, which would give it.
    refine bne_iff_ne.2 fun hkey => ?_
    obtain ⟨g, hgmem, hgname⟩ := List.mem_map.1 (name_of_mem_ofFields hcells he)
    obtain ⟨d, hd, hdesc⟩ := exists_of_forall₂ hds.flip hgmem
    have hdname : d.name = f.key := by
      rw [(Field.describe_eq_ok hdesc).2.2, hk, hkey, ← hgname]
      rfl
    rw [RecordDescriptor.giver?, List.findRev?_eq_find?_reverse, List.find?_eq_none] at hg
    exact hg d (List.mem_reverse.2 hd) (decide_eq_true hdname)

end Received

namespace BindingSet

/-- A record parameter that is made from a declaration, and that is there after a set is bound into
    a feed, has in each field what the conversion makes of the field's own header, if the field is
    given by itself; otherwise it has what the conversion makes of the header of the field that
    gives it, or its fallback, if none does. No two fields of a record type have the same name. -/
theorem populate_record (s : BindingSet) {p : Parameter} {before after : List Parameter}
    (hs : s.params = before ++ p :: after) (hapart : ∀ q ∈ after, p.Apart q)
    {convert : Bool} {name : String} {slot : Int} {declared : TypeExpr} {given : Option Marker}
    (hp : Parameter.declare convert name slot declared given = .ok p)
    {head : RecordHead} {fields : List Field} (hbase : declared.base = .record head fields)
    (hnames : (fields.map Field.name).Nodup) {h : Headers} {lenient : Bool} {old new : Feed}
    (hnew : s.populate h lenient old = (new, none)) {v : Value} (hv : new[p.slot]? = some v)
    (hne : v ≠ .absent) :
    ∃ r converts stored, p.reading = .record r ∧ r.Describes head converts fields ∧
      v = head.build stored ∧
      Received head fields r (p.convertsAgain head.kind) h lenient stored := by
  rw [populate, hs] at hnew
  obtain ⟨w, hw, hvalue, -⟩ := Feed.slots_of_populate hapart hnew
  obtain rfl : v = w := Option.some.inj (hv.symm.trans hvalue)
  obtain ⟨-, htype, -, hn, hreads⟩ := Parameter.of_ofType (Parameter.ofType_of_declare hp)
  have ht : p.type.base = .record head fields := by rw [htype, Parameter.base_target, hbase]
  have hnilable : p.nilable = p.type.isNilable := by rw [hn, htype, Parameter.isNilable_target]
  rcases hreads with ⟨hplain, -⟩ | ⟨converts, r, hr, hds⟩
  · rw [hbase] at hplain
    exact hplain.elim (fun h => by cases h) fun h => by cases h
  · rw [hbase] at hds
    obtain ⟨_, _, heq, hds⟩ := RecordDescriptor.describes_of_ofType hds
    cases heq
    have hb : p.type.base.isNothing = false := by rw [ht]; rfl
    -- The record is made of what was assembled, and made again if notes are to be checked of a
    -- dictionary.
    rcases Parameter.of_bind_record hr hnilable hb hw with ⟨-, hva⟩ | ⟨entries, ha, hw⟩
    · exact absurd hva hne
    · obtain ⟨cells, hcells, hw⟩ := Parameter.cells_of_finish_dict ht hw
      have hfirst := received_once hnames hds ha hcells
      rcases hw with ⟨hagain, hw⟩ | ⟨hagain, cells', hcells', hw⟩
      · exact ⟨r, converts, _, hr, hds, hw, hagain ▸ hfirst⟩
      · have hk : head.kind = .typedDict := by
          rw [Parameter.convertsAgain, Bool.and_eq_true] at hagain
          exact of_decide_eq_true hagain.1
        exact ⟨r, converts, _, hr, hds, hw,
          hagain ▸ received_twice hk hnames hds hcells hcells' hfirst⟩

set_option maxRecDepth 20000 in
/-- A field that has an alias is given by itself. -/
theorem populate_record_alias :
    let head : RecordHead := { kind := .model, name := "Token" }
    let field : Field :=
      { name := "t", type := .plain .str, aliasName := some "x", fallback := some (.text "none") }
    let p : Parameter :=
      ⟨"r", "r", 0, .record ⟨[⟨"x", "x", .string, false, false⟩]⟩, .record head [field], false, []⟩
    let h : Headers := ⟨[("x", "abc")]⟩
    let v : Value := .record head [("t", .text "abc")]
    Parameter.declare true "r" 0 (.record head [field]) none = .ok p ∧
      populate { params := [p] } h true (Feed.empty 2) = ([v, .bool true], none) ∧
      ∃ r converts stored, p.reading = .record r ∧ r.Describes head converts [field] ∧
        v = head.build stored ∧
        Received head [field] r (p.convertsAgain head.kind) h true stored := by
  intro head field p h v
  have hp : Parameter.declare true "r" 0 (.record head [field]) none = .ok p := by cbv
  have hx : h.values "x" = .ok ["abc"] := by cbv
  have hbind : p.bind h true = .ok v := by
    rw [Parameter.bind_of_record rfl]
    simp only [RecordDescriptor.assemble, assembleFields_cons, FieldDescriptor.read_eq,
      Headers.find, hx]
    rfl
  have hnew : populate { params := [p] } h true (Feed.empty 2) = ([v, .bool true], none) := by
    rw [populate, Feed.populate_cons_of_ok hbind (by decide)]
    rfl
  have hs : ({ params := [p] } : BindingSet).params = [] ++ p :: [] := rfl
  have hnames : ([field].map Field.name).Nodup := by decide
  have hne : Value.record head [("t", .text "abc")] ≠ .absent := fun h => by cases h
  exact ⟨hp, hnew, populate_record { params := [p] } hs (fun q hq => by cases hq) hp rfl hnames
    hnew rfl hne⟩

set_option maxRecDepth 20000 in
/-- A field that is assembled under its alias, and looked for under its validation alias, holds its
    fallback, although its header is there, is read, and would be converted. -/
theorem populate_record_keeps_fallback :
    let head : RecordHead := { kind := .model, name := "Token" }
    let field : Field :=
      { name := "t", type := .plain .str, aliasName := some "x", validationAlias := some "y",
        fallback := some (.text "none") }
    let d : FieldDescriptor := ⟨"x", "x", .string, false, false⟩
    let p : Parameter := ⟨"r", "r", 0, .record ⟨[d]⟩, .record head [field], false, []⟩
    let h : Headers := ⟨[("x", "abc")]⟩
    Parameter.declare true "r" 0 (.record head [field]) none = .ok p ∧
      RecordDescriptor.assemble ⟨[d]⟩ h false true = .ok (some [("x", .text "abc")]) ∧
      populate { params := [p] } h true (Feed.empty 2) =
        ([.record head [("t", .text "none")], .bool true], none) ∧
      ∀ w, ¬(field.Receives .model false d h true w ∧
        List.lookup "t" [("t", Value.text "none")] = some w) := by
  intro head field d p h
  have hp : Parameter.declare true "r" 0 (.record head [field]) none = .ok p := by cbv
  have hx : h.values "x" = .ok ["abc"] := by cbv
  have hread : d.read h true = .ok (some (.text "abc")) := by
    simp only [FieldDescriptor.read_eq, Headers.find, d, hx]
    rfl
  have hassemble :
      RecordDescriptor.assemble ⟨[d]⟩ h false true = .ok (some [("x", .text "abc")]) := by
    rw [RecordDescriptor.assemble, assembleFields_cons, hread]
    rfl
  have hbind : p.bind h true = .ok (.record head [("t", .text "none")]) := by
    rw [Parameter.bind_of_record rfl, hassemble]
    rfl
  refine ⟨hp, hassemble, ?_, ?_⟩
  · rw [populate, Feed.populate_cons_of_ok hbind (by decide)]
    rfl
  · rintro w ⟨⟨raw, x, hraw, hconvert, hwx⟩, hw⟩
    obtain rfl : .text "abc" = raw := Option.some.inj (Except.ok.inj (hread.symm.trans hraw))
    obtain rfl : .text "abc" = x := Except.ok.inj hconvert
    obtain rfl : w = .text "abc" := hwx
    have hne : Value.text "none" = .text "abc" := Option.some.inj hw
    simp at hne

end BindingSet

end TypedHeaders
