import TypedHeaders.Proofs.Buildable
import TypedHeaders.Proofs.Comparison
import TypedHeaders.Proofs.Grammar
import TypedHeaders.Proofs.Natives
import TypedHeaders.Proofs.TextSteps

/-!
# Converting again

What a native value is converted to is converted to itself where the type
*settles* (`TypeExpr.Settles`). Numbers and truth values always do, and so do
members of enumerations and listed values of which no text is made; texts do
unless they outgrow their limits or end up in upper case (`textSettles`), and
arrays if their items do. Of the records only dictionaries are read again, field
by field, and those with settling fields under their own names settle. All this is
about conversions that are built.

* `convert_again`: native values of a type that settles;
* `convert_again_of_assemble`: the records that are assembled for one.
-/

namespace TypedHeaders

open Converted

/-! ## Listed values -/

theorem Numeral.Binary64.compare?_eq_some_eq {x y : Binary64} :
    x.compare? y = some .eq ↔ ∃ k, x.key? = some k ∧ y.key? = some k := by
  rw [compare?]
  cases x.key? with
  | none => simp
  | some j =>
    cases y.key? with
    | none => simp
    | some k => simpa using eq_comm

theorem Numeral.Decimal.compare_eq_eq {d e : Decimal} : d.compare e = .eq ↔ d.toRat = e.toRat := by
  have hcompares := compares_compare d e
  constructor
  · intro h
    rwa [h] at hcompares
  · intro h
    exact hcompares.inj h

namespace Number

theorem equal_int {m n : Int} : (int m).equal (int n) = true ↔ m = n := by
  simp [equal, order?]

/-- Binary numbers that are equal are equal to the same ones. -/
theorem equal_float_congr {x y z : Numeral.Binary64} (hxy : (float x).equal (float y) = true) :
    (float y).equal (float z) = (float x).equal (float z) := by
  obtain ⟨k, hx, hy⟩ := Numeral.Binary64.compare?_eq_some_eq.1 (of_decide_eq_true hxy)
  refine decide_eq_decide.2 ?_
  change y.compare? z = _ ↔ x.compare? z = _
  rw [Numeral.Binary64.compare?_eq_some_eq, Numeral.Binary64.compare?_eq_some_eq, hx, hy]

/-- Decimals that are equal are equal to the same ones. -/
theorem equal_decimal_congr {d e f : Numeral.Decimal}
    (hde : (decimal d).equal (decimal e) = true) :
    (decimal e).equal (decimal f) = (decimal d).equal (decimal f) := by
  have hvalue : d.toRat = e.toRat :=
    Numeral.Decimal.compare_eq_eq.1 (Option.some.inj (of_decide_eq_true hde))
  refine decide_eq_decide.2 ?_
  change some (e.compare f) = _ ↔ some (d.compare f) = _
  rw [Option.some.injEq, Option.some.injEq, Numeral.Decimal.compare_eq_eq,
    Numeral.Decimal.compare_eq_eq, hvalue]

end Number

/-- A number that need not be an integer. -/
def Atom.isFractional : Atom → Bool
  | .number (.float _) | .number (.decimal _) => true
  | _ => false

/-- Equal atoms of one tag are the same, unless they are numbers that need not be integers, which are
    equal to the same ones. -/
theorem Atom.eq_or_equal_congr {tag : Tag} {a b : Atom} (ha : a.CastBy tag)
    (hb : TypeExpr.atomTag? b = some tag) (hab : a.equal b = true) :
    a = b ∨ b.isFractional = true ∧
      ∀ c, TypeExpr.atomTag? c = some tag → b.equal c = a.equal c := by
  cases ha with
  | text s =>
    match b, hb with
    | .text t, _ => exact .inl (congrArg Atom.text (of_decide_eq_true hab))
  | bool x =>
    match b, hb with
    | .bool y, _ => cases x <;> cases y <;> first | exact .inl rfl | cases hab
  | @int m _ =>
    match b, hb with
    | .number (.int n), _ => exact .inl (congrArg (Atom.number <| .int ·) (Number.equal_int.1 hab))
  | float x =>
    match b, hb with
    | .number (.float y), _ =>
      refine .inr ⟨rfl, fun c hc => ?_⟩
      match c, hc with
      | .number (.float z), _ => exact Number.equal_float_congr hab
  | decimal d =>
    match b, hb with
    | .number (.decimal e), _ =>
      refine .inr ⟨rfl, fun c hc => ?_⟩
      match c, hc with
      | .number (.decimal f), _ => exact Number.equal_decimal_congr hab

/-- The listed value that an atom is converted to is converted to itself, if the atom is of the kind
    of the listed ones. -/
theorem convertLiteral_again {values : List Atom} {tag : Tag} {a b : Atom}
    (hvalues : ∀ c ∈ values, TypeExpr.atomTag? c = some tag) (ha : a.CastBy tag)
    (hb : convertLiteral values (.atom a) = .ok b) : convertLiteral values (.atom b) = .ok b := by
  by_cases hab : a = b
  · exact hab ▸ hb
  · -- The atom was found by equality, and it is not the same.
    have hfind : findEqual? values a = some b := by
      simp only [convertLiteral] at hb
      split_ifs at hb
      · exact absurd (Except.ok.inj hb) hab
      · split at hb
        · rw [← Except.ok.inj hb]
          assumption
        · cases hb
    have htag := hvalues b (mem_of_findEqual? hfind)
    obtain ⟨hfraction, hcongr⟩ :=
      (Atom.eq_or_equal_congr ha htag (List.find?_some hfind)).resolve_left hab
    -- What is equal to `b` among the listed values is what is equal to `a`.
    have hagain : findEqual? values b = some b := by
      rw [← hfind]
      exact List.find?_congr fun c hc => hcongr c (hvalues c (List.mem_reverse.1 hc))
    cases b with
    | number n =>
      cases n with
      | int n => cases hfraction
      | float | decimal => simp [convertLiteral, hagain]
    | _ => cases hfraction

/-! ## Scalars -/

namespace TypeExpr

/-- What constraints make of a value of a type is converted to itself under them. -/
def Returns (t : TypeExpr) (cs : List Constraint) (v : Value) : Prop :=
  ∀ w, Constraint.checkAll t.schema cs v = .ok w → (TypedHeaders.convert t cs w).result = .ok w

/-- A scalar under constraints settles: texts do; of the members of an enumeration and of listed
    values no texts are made, or those that are made are converted to themselves. -/
def ScalarSettles (t : TypeExpr) (cs : List Constraint) : Prop :=
  match t with
  | .plain .str => textSettles cs = true
  | .enum e =>
    cs.any Constraint.isReshaping = false ∨
      ∀ label, e.Has label → Returns (.enum e) cs (.member e label)
  | .literal values =>
    cs.any Constraint.isReshaping = false ∨ ∀ a ∈ values, Returns (.literal values) cs (.atom a)
  | _ => True

/-- A scalar under constraints settles, and an array if its items do. -/
def PlainSettles (t : TypeExpr) (cs : List Constraint) : Prop :=
  match t with
  | .collection _ item => item.unwrap.ScalarSettles item.stated
  | t => t.ScalarSettles cs

end TypeExpr

section Again

variable {t : TypeExpr} {cs : List Constraint} {tag : Tag} {a : Atom} {v w : Value}

theorem convert_again_of_plain {p : PlainType} (hb : buildError? (.plain p) cs = none)
    (hs : (TypeExpr.plain p).ScalarSettles cs) (ht : (TypeExpr.plain p).scalarTag? = some tag)
    (ha : a.CastBy tag) (hw : (convert (.plain p) cs (.atom a)).result = .ok w) :
    (convert (.plain p) cs w).result = .ok w := by
  rcases of_convert_plain ht ha hw with ⟨s, s', rfl, rfl⟩ | ⟨-, rfl⟩
  · cases ha
    cases p with
    | str =>
      rw [buildError?] at hb
      exact convert_text_again hb hs hw
    | _ => cases ht
  · exact hw

/-- A member stands for itself. -/
theorem Enumeration.convert_member (e : Enumeration) (label : String) :
    e.convert (.member e label) = pure (.member e label) := if_pos rfl

theorem convert_again_of_enum {e : Enumeration} (hs : (TypeExpr.enum e).ScalarSettles cs)
    (hv : v.Genuine) (hw : (convert (.enum e) cs v).result = .ok w) :
    (convert (.enum e) cs w).result = .ok w := by
  rw [convert] at hw
  obtain ⟨x, hx, hcheck⟩ := (TypeExpr.within_result_of_checks_none fun _ => rfl).1 hw
  obtain ⟨label, rfl, he⟩ := e.isMember_of_convert hv hx
  rcases hs with hnone | hreturns
  · obtain rfl := Constraint.eq_of_checkAll hnone hcheck
    rw [convert]
    exact (TypeExpr.within_result_of_checks_none fun _ => rfl).2
      ⟨_, congrArg result (e.convert_member label), hcheck⟩
  · exact hreturns label he w hcheck

theorem convert_again_of_literal {values : List Atom}
    (hs : (TypeExpr.literal values).ScalarSettles cs)
    (ht : (TypeExpr.literal values).scalarTag? = some tag) (ha : a.CastBy tag)
    (hw : (convert (.literal values) cs (.atom a)).result = .ok w) :
    (convert (.literal values) cs w).result = .ok w := by
  rw [convert] at hw
  obtain ⟨x, hx, hcheck⟩ := (TypeExpr.within_result_of_checks_none fun _ => rfl).1 hw
  obtain ⟨b, hb, rfl⟩ := map_eq_ok.1 (ofReason_result_eq_ok.1 hx)
  rcases hs with hnone | hreturns
  · obtain rfl := Constraint.eq_of_checkAll hnone hcheck
    have hself := convertLiteral_again (TypeExpr.commonTag?_eq_some_iff.1 ht).2 ha hb
    rw [convert]
    exact (TypeExpr.within_result_of_checks_none fun _ => rfl).2
      ⟨_, ofReason_result_eq_ok.2 (map_eq_ok.2 ⟨b, hself, rfl⟩), hcheck⟩
  · exact hreturns b (mem_of_convertLiteral hb) w hcheck

/-- An atom that is cast for a scalar without notes is converted to what is converted to itself. -/
theorem convert_again_of_scalar (hu : t.unwrap = t) (hb : buildError? t cs = none)
    (hs : t.ScalarSettles cs) (ht : t.scalarTag? = some tag) (ha : a.CastBy tag)
    (hw : (convert t cs (.atom a)).result = .ok w) : (convert t cs w).result = .ok w := by
  cases t with
  | plain p => exact convert_again_of_plain hb hs ht ha hw
  | enum e => exact convert_again_of_enum hs (.atom a) hw
  | literal values => exact convert_again_of_literal hs ht ha hw
  | annotated => exact absurd hu (TypeExpr.unwrap_ne_annotated _)
  | _ => cases ht

/-! ## Arrays -/

/-- An item of an array, with the notes around its type. -/
theorem convert_again_of_item {item : TypeExpr} (hb : buildError? item [] = none)
    (hs : item.unwrap.ScalarSettles item.stated) (ht : item.scalarTag? = some tag)
    (ha : a.CastBy tag) (hw : (convert item [] (.atom a)).result = .ok w) :
    (convert item [] w).result = .ok w := by
  rw [buildError?_unwrap, List.append_nil] at hb
  rw [convert_unwrap, List.append_nil] at hw ⊢
  have ht : item.unwrap.scalarTag? = some tag := by
    rwa [TypeExpr.scalarTag?, TypeExpr.unwrap_unwrap]
  exact convert_again_of_scalar (TypeExpr.unwrap_unwrap item) hb hs ht ha hw

/-- An array of atoms that are cast is converted to what is converted to itself, if its items
    are. -/
theorem convert_again_of_array {form : CollectionForm} {item : TypeExpr} {as : List Atom}
    (hb : buildError? (.collection form item) cs = none)
    (hs : item.unwrap.ScalarSettles item.stated) (ht : item.scalarTag? = some tag)
    (has : ∀ a ∈ as, a.CastBy tag)
    (hw : (convert (.collection form item) cs (.collection .list (as.map .atom))).result = .ok w) :
    (convert (.collection form item) cs w).result = .ok w := by
  have htag : item.scalarTag?.isSome = true := by rw [ht]; rfl
  obtain ⟨_, _, ys, ⟨⟩, -, hys, helements, hw, hsize, hcheck⟩ := (convert_array_eq_ok htag).1 hw
  rw [CollectionForm.kindOf_list] at hw
  have hmem {x : Value} (hx : x ∈ form.itemsOf ys) : x ∈ ys := (form.itemsOf_sublist ys).subset hx
  have hself : ∀ x ∈ form.itemsOf ys, (convert item [] x).result = .ok x := by
    intro x hx
    obtain ⟨v, hv, hx⟩ := exists_of_forall₂ hys (hmem hx)
    obtain ⟨a, ha, rfl⟩ := List.mem_map.1 hv
    exact convert_again_of_item (built_item hb) hs ht (has a ha) hx
  -- None of the items is dropped, so that the array has the size that was checked before.
  refine (convert_array_eq_ok htag).2 ⟨form.kind, _, form.itemsOf ys, hw, form.takes_kind,
    List.forall₂_same.2 hself, fun hset x hx => helements hset x (hmem hx), ?_, ?_, hcheck⟩
  · rwa [CollectionForm.kindOf_kind, CollectionForm.itemsOf_itemsOf]
  · rwa [CollectionForm.itemsOf_itemsOf]

/-! ## Native values -/

/-- A native value of a type that settles is converted to what is converted to itself. -/
theorem convert_again_of_native (hu : t.unwrap = t) (hb : buildError? t cs = none)
    (hs : t.PlainSettles cs) (hv : IsNative t v) (hw : (convert t cs v).result = .ok w) :
    (convert t cs w).result = .ok w := by
  cases hv with
  | scalar ht ha =>
    have hs : t.ScalarSettles cs := by
      cases t with
      | collection form item => cases ht
      | _ => exact hs
    exact convert_again_of_scalar hu hb hs ht ha hw
  | array ht has => exact convert_again_of_array hb hs ht has hw

end Again

/-! ## Declared types -/

/-- What a native value, or nothing, is converted to is converted to itself, if the base of the type
    settles under all notes around it. -/
theorem convert_again {t : TypeExpr} {cs : List Constraint} {v w : Value}
    (ht : t.base.IsPlainlyBound) (hb : buildError? t cs = none)
    (hs : t.base.PlainSettles (t.baseConstraints ++ cs))
    (hv : v = .absent ∧ t.isNilable = true ∨ IsNative t.base v)
    (hw : (convert t cs v).result = .ok w) : (convert t cs w).result = .ok w := by
  have hunion := TypeExpr.not_isUnion_of_isPlainlyBound ht
  have hnothing := TypeExpr.isNothing_of_isPlainlyBound ht
  rcases hv with ⟨rfl, hn⟩ | hv
  · rw [convert_absent cs hn hnothing] at hw
    obtain rfl := pure_result_eq_ok.1 hw
    rw [convert_absent cs hn hnothing]
    rfl
  · rw [convert_eq_base_of_present cs hunion hv.isAbsent] at hw
    by_cases habsent : w.isAbsent = true ∧ t.isNilable = true
    · obtain rfl := Value.isAbsent_iff.1 habsent.1
      rw [convert_absent cs habsent.2 hnothing]
      rfl
    · rw [convert_eq_base cs hunion habsent]
      exact convert_again_of_native (TypeExpr.unwrap_unwrap _) (buildError?_eq_base cs hunion ▸ hb)
        hs hv hw

/-! ## Records -/

/-- The field settles, and is looked for under its name. -/
structure Field.Settles (kind : RecordKind) (f : Field) : Prop where
  key : f.key = f.name
  value : (f.valueType kind).base.PlainSettles
    ((f.valueType kind).baseConstraints ++ f.constraints kind)

/-- The fields of a dictionary settle, and no two of them have the same name. -/
structure FieldsSettle (kind : RecordKind) (fields : List Field) : Prop where
  names : (fields.map Field.name).Nodup
  each : ∀ f ∈ fields, f.Settles kind

section Records

variable {head : RecordHead} {fields : List Field} {r : RecordDescriptor} {converts : Bool}
  {h : Headers} {nilable lenient : Bool} {entries : Entries Value} {cells : List ConvertedField}
  {f : Field} {cs : List Constraint}

/-- There is a value under the name of each field of a record that is assembled. -/
theorem exists_lookup_of_assemble (hds : r.Describes head converts fields)
    (hkey : (f.boundAlias? head.kind).getD f.name = f.key)
    (ha : r.assemble h nilable lenient = .ok (some entries)) (hf : f ∈ fields) :
    ∃ v, entries.lookup f.key = some v := by
  obtain ⟨d, hd, hdescribe⟩ := exists_of_forall₂ hds.flip hf
  have hname : d.name = f.key := (Field.describe_eq_ok hdescribe).2.2.trans hkey
  cases hg : r.giver? f.key with
  | some g =>
    obtain ⟨v, -, hlookup⟩ := lookup_of_giver ha hg
    exact ⟨v, hlookup⟩
  | none =>
    rw [RecordDescriptor.giver?, List.findRev?_eq_find?_reverse, List.find?_eq_none] at hg
    exact absurd (decide_eq_true hname) (hg d (List.mem_reverse.2 hd))

/-- A dictionary that was filled from what was assembled is filled from itself again. -/
theorem filledFrom_again (hk : head.kind = .typedDict)
    (hb : buildError? (.record head fields) cs = none) (hs : FieldsSettle head.kind fields)
    (hds : r.Describes head converts fields)
    (ha : r.assemble h nilable lenient = .ok (some entries))
    (hcells : FilledFrom head entries fields cells) :
    FilledFrom head (.ofFields cells) fields cells := by
  have halias : ∀ f ∈ fields, (f.boundAlias? head.kind).getD f.name = f.key := by
    intro f hf
    rw [hk, (hs.each f hf).key]
    rfl
  have hkeys : (fields.map Field.key).Nodup := by
    rw [List.map_congr_left fun f hf => (hs.each f hf).key]
    exact hs.names
  refine List.forall₂_iff_zip.2 ⟨hcells.length_eq, fun {f c} hfc => ?_⟩
  have hf := (List.of_mem_zip hfc).1
  obtain ⟨d, -, hdescribe⟩ := exists_of_forall₂ hds.flip hf
  have hplain := (Field.describe_eq_ok hdescribe).1
  obtain ⟨v, hv⟩ := exists_lookup_of_assemble hds (halias f hf) ha hf
  obtain ⟨w, hw, hlookup⟩ := lookup_of_given hs.names hcells hf hv
  obtain ⟨w', hw', rfl⟩ := (Field.fill_of_some hv).1 ((List.forall₂_iff_zip.1 hcells).2 hfc)
  obtain rfl : w = w' := Except.ok.inj (hw.symm.trans hw')
  -- What the field holds stands under its name, which is its key.
  rw [← (hs.each f hf).key] at hlookup
  refine (Field.fill_of_some hlookup).2 ⟨w, ?_, rfl⟩
  have hnative := native_of_assemble hds halias hkeys ha hf hv
  exact convert_again hplain (built_field hb hf) (hs.each f hf).value hnative hw

end Records

/-- The type settles: its base does, and, if that is a dictionary, its fields do. -/
def TypeExpr.Settles (t : TypeExpr) : Prop :=
  match t.base with
  | .record head fields => head.kind = .typedDict → FieldsSettle head.kind fields
  | b => b.PlainSettles t.baseConstraints

/-- A record that is made of what was assembled is converted to itself. -/
theorem convert_again_of_assemble {t : TypeExpr} {head : RecordHead} {fields : List Field}
    {r : RecordDescriptor} {converts nilable lenient : Bool} {h : Headers} {entries : Entries Value}
    {w : Value} (ht : t.base = .record head fields) (hb : buildError? t [] = none)
    (hs : head.kind = .typedDict → FieldsSettle head.kind fields)
    (hds : r.Describes head converts fields)
    (ha : r.assemble h nilable lenient = .ok (some entries))
    (hw : (convert t [] (.dict entries)).result = .ok w) : (convert t [] w).result = .ok w := by
  obtain ⟨⟨cells, hcells, rfl⟩, hcheck⟩ := (convert_dict_eq_ok ht).1 hw
  by_cases hk : head.kind = .typedDict
  · rw [buildError?_eq_base [] (by rw [ht]; rfl), ht] at hb
    have hagain := filledFrom_again hk hb (hs hk) hds ha hcells
    rw [RecordHead.build_of_typedDict hk] at hcheck ⊢
    refine (convert_dict_eq_ok ht).2 ⟨⟨cells, hagain, ?_⟩, hcheck⟩
    rw [RecordHead.build_of_typedDict hk]
  · exact (convert_instance_eq_ok ht hk).2 ⟨rfl, hcheck⟩

theorem IsNative.isPlainlyBound {t : TypeExpr} {v : Value} (hv : IsNative t v) :
    t.IsPlainlyBound := by
  cases hv with
  | scalar ht _ => exact .inl (by rw [ht]; rfl)
  | array ht _ => exact .inr (by rw [TypeExpr.arrayTag?, ht]; rfl)

/-- What the source of a parameter is converted to is converted to itself, if the declared type
    settles. -/
theorem convert_again_of_isSource {t : TypeExpr} {h : Headers} {lenient : Bool} {v w : Value}
    (hnothing : t.base.isNothing = false) (hb : buildError? t [] = none) (hs : t.Settles)
    (hv : Parameter.IsSource t h lenient v)
    (hw : (convert t [] v).result = .ok w) : (convert t [] w).result = .ok w := by
  cases hv with
  | native hv =>
    have hplain := hv.isPlainlyBound
    have hs : t.base.PlainSettles (t.baseConstraints ++ []) := by
      rw [List.append_nil]
      -- What is native to the base is no record, so that the base itself settles.
      rw [TypeExpr.Settles] at hs
      split at hs
      · rename_i hrecord
        rw [hrecord] at hplain
        exact hplain.elim (fun h => by cases h) fun h => by cases h
      · exact hs
    exact convert_again hplain hb hs (.inr hv) hw
  | nothing hn =>
    rw [convert_absent [] hn hnothing] at hw
    obtain rfl := pure_result_eq_ok.1 hw
    rw [convert_absent [] hn hnothing]
    rfl
  | assembled ht hds ha =>
    rw [TypeExpr.Settles, ht] at hs
    exact convert_again_of_assemble ht hb hs hds ha hw

end TypedHeaders
