import TypedHeaders.Proofs.ArrayConversion
import TypedHeaders.Proofs.Inhabitants

/-!
# Soundness of the conversion

The conversion to a declared type only has values that inhabit the type.

* `inhabits_of_convert`: to a scalar or an array, of any genuine value; nothing
  comes of it only if the type is nilable;
* `fieldsInhabit_of_fill`: to the fields of a record, of a dictionary of genuine
  values, if the fallbacks of the fields inhabit them.

Only constraints that reshape can take a value out of its type, and they refuse
everything but texts, bytes and members of enumerations.
-/

namespace TypedHeaders

open Converted

/-! ## Choices -/

namespace Enumeration

variable {e : Enumeration} {a : Atom} {v w : Value}

/-- The value is a member of the enumeration. -/
def IsMember (e : Enumeration) (w : Value) : Prop := ∃ label, w = .member e label ∧ e.Has label

theorem isMember_of_find (hw : (e.find a).result = .ok w) : e.IsMember w := by
  rw [find, label?] at hw
  cases hm : e.members.find? fun m => m.2.equal a with
  | none => rw [hm] at hw; cases hw
  | some m =>
    rw [hm] at hw
    exact ⟨m.1, (Except.ok.inj hw).symm, List.mem_map_of_mem (List.mem_of_find?_eq_some hm)⟩

theorem isMember_of_findInteger {n : Int} (hw : (e.findInteger n).result = .ok w) :
    e.IsMember w := by
  rw [findInteger] at hw
  split at hw
  · cases hw
  · exact isMember_of_find hw

theorem isMember_of_findAtom (hw : (e.findAtom a).result = .ok w) : e.IsMember w := by
  unfold findAtom at hw
  -- What is tried first depends on the kind of enumeration, but every way ends in a look-up.
  split at hw
  · split at hw
    · exact isMember_of_findInteger hw
    · exact isMember_of_find hw
  · split at hw
    · exact isMember_of_findInteger hw
    · exact isMember_of_find hw
  · split at hw
    · exact isMember_of_find hw
    · exact isMember_of_find hw
  · exact isMember_of_findInteger hw
  · exact isMember_of_find hw
  · exact isMember_of_find hw

/-- A value is converted to a member of the enumeration; a member stays one. -/
theorem isMember_of_convert (hv : v.Genuine) (hw : (e.convert v).result = .ok w) :
    e.IsMember w := by
  unfold Enumeration.convert at hw
  cases hv with
  | atom a => exact isMember_of_findAtom hw
  | member he =>
    dsimp only at hw
    split at hw
    · rename_i heq
      subst heq
      exact ⟨_, (Except.ok.inj hw).symm, he⟩
    · split at hw
      · exact isMember_of_findAtom hw
      · cases hw
  | bytes | collection | record | dict => cases hw

end Enumeration

theorem mem_of_findEqual? {values : List Atom} {a b : Atom} (hb : findEqual? values a = some b) :
    b ∈ values := List.mem_reverse.1 (List.mem_of_find?_eq_some hb)

/-- A value is converted to one of those listed. -/
theorem mem_of_convertLiteral {values : List Atom} {v : Value} {b : Atom}
    (hb : convertLiteral values v = .ok b) : b ∈ values := by
  cases v with
  | atom a =>
    simp only [convertLiteral] at hb
    split_ifs at hb with hsize hmem
    · rw [Bool.and_eq_true] at hmem
      obtain rfl := Except.ok.inj hb
      exact List.contains_iff_mem.1 hmem.1
    · split at hb
      · rename_i hfound
        obtain rfl := Except.ok.inj hb
        exact mem_of_findEqual? hfound
      · cases hb
  | member e label =>
    simp only [convertLiteral] at hb
    split at hb
    · rename_i hfound
      obtain rfl := Except.ok.inj hb
      obtain ⟨_, -, ha⟩ := Option.bind_eq_some_iff.1 hfound
      exact mem_of_findEqual? ha
    · cases hb
  | bytes | collection | record | dict => cases hb

/-! ## Scalars -/

/-- What comes of a choice inhabits it, whatever constraints are checked after it. -/
theorem inhabits_of_checkAll {t : TypeExpr} {cs : List Constraint} {schema : String} {v w : Value}
    (ht : t.isChoice = true) (hv : ∀ cs, Inhabits t cs v)
    (hw : Constraint.checkAll schema cs v = .ok w) : Inhabits t cs w := by
  cases hcs : cs.any Constraint.isReshaping with
  | true =>
    obtain ⟨s, hs, rfl⟩ := Constraint.checkAll_of_reshaping hcs hw
    exact .reshaped ht hcs (hv []) hs
  | false =>
    rw [Constraint.eq_of_checkAll hcs hw]
    exact hv cs

/-- Constraints leave a text a text. -/
theorem isText_of_checkAll {cs : List Constraint} {schema s : String} {w : Value}
    (hw : Constraint.checkAll schema cs (.text s) = .ok w) : ∃ s', w = .text s' := by
  cases hcs : cs.any Constraint.isReshaping with
  | true =>
    obtain ⟨s', -, hw⟩ := Constraint.checkAll_of_reshaping hcs hw
    exact ⟨reshapedBy cs s', hw⟩
  | false => exact ⟨s, Constraint.eq_of_checkAll hcs hw⟩

/-- Numbers and truth values count as no texts, so that constraints leave them as they are. -/
theorem inhabits_of_convertPlain {p : PlainType} {l : Limits} {cs cs' : List Constraint}
    {schema : String} {v x w : Value} (hp : (TypeExpr.plain p).scalarTag?.isSome = true)
    (hx : (convertPlain p l v).result = .ok x) (hw : Constraint.checkAll schema cs x = .ok w) :
    Inhabits (.plain p) cs' w := by
  have hkeep (hx : ∀ s, (Scalar.toText x).result ≠ .ok s) : w = x :=
    Constraint.eq_of_checkAll_of_not_text hx hw
  cases p with
  | str =>
    obtain ⟨s, -, hx⟩ := bind_result_eq_ok.1 hx
    obtain ⟨s', -, hx⟩ := bind_result_eq_ok.1 hx
    obtain rfl := pure_result_eq_ok.1 hx
    obtain ⟨s'', rfl⟩ := isText_of_checkAll hw
    exact .text s''
  | int | float | decimal =>
    obtain ⟨n, -, hx⟩ := bind_result_eq_ok.1 hx
    obtain ⟨-, -, hx⟩ := bind_result_eq_ok.1 hx
    obtain rfl := pure_result_eq_ok.1 hx
    obtain rfl := hkeep fun _ => refuse_result_ne_ok
    constructor
  | bool =>
    obtain ⟨b, -, hx⟩ := bind_result_eq_ok.1 hx
    obtain rfl := pure_result_eq_ok.1 hx
    obtain rfl := hkeep fun _ => refuse_result_ne_ok
    exact .bool b
  | _ => cases hp

/-- The conversion to a scalar type has values that inhabit it. -/
theorem inhabits_of_convert_scalar {v w : Value} (hv : v.Genuine) :
    (t : TypeExpr) → (cs : List Constraint) → t.scalarTag?.isSome = true →
      (convert t cs v).result = .ok w → Inhabits t cs w
  | .annotated t notes, cs, ht, hw => by
    -- The notes only add to the constraints; what is below them has the same tag.
    rw [convert_annotated] at hw
    exact .annotated (inhabits_of_convert_scalar hv t _ ht hw)
  | .enum e, cs, _, hw => by
    rw [convert] at hw
    obtain ⟨x, hx, hw⟩ := (TypeExpr.within_result_of_checks_none fun _ => rfl).1 hw
    obtain ⟨label, rfl, he⟩ := e.isMember_of_convert hv hx
    exact inhabits_of_checkAll rfl (fun _ => .member he) hw
  | .literal values, cs, _, hw => by
    rw [convert] at hw
    obtain ⟨x, hx, hw⟩ := (TypeExpr.within_result_of_checks_none fun _ => rfl).1 hw
    obtain ⟨a, ha, rfl⟩ := map_eq_ok.1 (ofReason_result_eq_ok.1 hx)
    exact inhabits_of_checkAll rfl (fun _ => .literal (mem_of_convertLiteral ha)) hw
  | .plain p, cs, ht, hw => by
    rw [convert] at hw
    obtain ⟨x, hx, hw⟩ := TypeExpr.within_result_eq_ok.1 hw
    exact inhabits_of_convertPlain ht hx hw
  | .collection _ _, _, ht, _ | .fixedTuple _, _, ht, _ | .mapping _ _, _, ht, _
  | .union _ _, _, ht, _ | .presence _ _, _, ht, _ | .record _ _, _, ht, _ => by cases ht

/-! ## Arrays -/

theorem CollectionForm.Takes.admits_kindOf {form : CollectionForm} {kind : CollectionKind}
    (hk : form.Takes kind) : form.Admits (form.kindOf kind) := by
  by_cases hform : form = .sequence
  · subst hform
    exact (hk rfl).imp_right fun hk => ⟨rfl, hk⟩
  · exact .inl (kindOf_of_ne_sequence hform)

/-- The conversion to an array of scalars has values that inhabit it. -/
theorem inhabits_of_convert_array {form : CollectionForm} {item : TypeExpr}
    {cs : List Constraint} {v w : Value} (ht : item.scalarTag?.isSome = true) (hv : v.Genuine)
    (hw : (convert (.collection form item) cs v).result = .ok w) :
    Inhabits (.collection form item) cs w := by
  obtain ⟨kind, vs, ys, rfl, hk, hys, -, rfl, -⟩ := (convert_array_eq_ok ht).1 hw
  cases hv with
  | collection hvs =>
    refine .collection hk.admits_kindOf fun y hy => ?_
    obtain ⟨v, hv, hvy⟩ := exists_of_forall₂ hys ((form.itemsOf_sublist ys).subset hy)
    exact inhabits_of_convert_scalar (hvs v hv) item [] ht hvy

/-! ## Types that are bound from one header -/

theorem atomTag?_of_commonTag {values : List Atom} {a : Atom}
    (hv : (TypeExpr.commonTag? values).isSome = true) (ha : a ∈ values) :
    (TypeExpr.atomTag? a).isSome = true := by
  cases values with
  | nil => cases ha
  | cons b bs =>
    rw [TypeExpr.commonTag?] at hv
    split at hv
    · rename_i hall
      rcases List.mem_cons.1 ha with rfl | ha
      · exact hv
      · rw [of_decide_eq_true (List.all_eq_true.1 hall a ha)]
        exact hv
    · cases hv

/-- Nothing is no value of a scalar or of a collection of scalars without notes. -/
theorem ne_absent_of_inhabits {t : TypeExpr} {cs : List Constraint} {v : Value}
    (ht : t.IsPlainlyBound) (hu : t.unwrap = t) (hv : Inhabits t cs v) : v ≠ .absent := by
  cases hv with
  | literal ha =>
    rintro ⟨⟩
    rcases ht with ht | ht
    · cases atomTag?_of_commonTag ht ha
    · cases ht
  | nothing | inUnion | record => exact ht.elim (fun h => by cases h) fun h => by cases h
  | annotated => exact absurd hu (TypeExpr.unwrap_ne_annotated _)
  | _ => exact fun h => by cases h

/-- The conversion to a type that is bound from one header has values that inhabit it, and nothing
    is one of them only if the type is nilable. -/
theorem inhabits_of_convert {t : TypeExpr} {cs : List Constraint} {v w : Value}
    (ht : t.base.IsPlainlyBound) (hv : v.Genuine) (hw : (convert t cs v).result = .ok w) :
    Inhabits t cs w ∧ (w = .absent → t.isNilable = true) := by
  have hunion := TypeExpr.not_isUnion_of_isPlainlyBound ht
  -- Where nothing may be there, it is not converted to the base at all.
  by_cases habsent : v.isAbsent = true ∧ t.isNilable = true
  · obtain ⟨hva, hn⟩ := habsent
    obtain rfl := Value.isAbsent_iff.1 hva
    have hb := TypeExpr.isNothing_of_isPlainlyBound ht
    rw [convert_absent cs hn hb] at hw
    obtain rfl := pure_result_eq_ok.1 hw
    exact ⟨inhabits_absent hn hb, fun _ => hn⟩
  · rw [convert_eq_base cs hunion habsent] at hw
    have hbase : Inhabits t.base (t.baseConstraints ++ cs) w := by
      rcases ht with ht | ht
      · exact inhabits_of_convert_scalar hv _ _ ht hw
      · cases hb : t.base with
        | collection form item =>
          rw [hb] at ht hw
          exact inhabits_of_convert_array ht hv hw
        | _ => rw [hb] at ht; cases ht
    refine ⟨inhabits_of_base hunion hbase, fun hwa => ?_⟩
    exact absurd hwa (ne_absent_of_inhabits ht (TypeExpr.unwrap_unwrap _) hbase)

/-! ## Records -/

/-- The fallback of a field, if it has one, is a value of the field's type. -/
def Field.FallbackInhabits (kind : RecordKind) (f : Field) : Prop :=
  ∀ v, f.fallback = some v → Inhabits (f.valueType kind) (f.constraints kind) v

section Record

variable {h : RecordHead} {fields : List Field} {entries : Entries Value}

theorem genuine_of_lookup {key : String} {v : Value} (hentries : ∀ e ∈ entries, e.2.Genuine)
    (hv : entries.lookup key = some v) : v.Genuine := by
  obtain ⟨before, after, rfl, -⟩ := List.lookup_eq_some_iff.1 hv
  exact hentries _ (List.mem_append_right _ List.mem_cons_self)

/-- Fields that are filled from a dictionary inhabit the fields of the record type. -/
theorem fieldsInhabit_of_fill {cells : List ConvertedField}
    (hfields : ∀ f ∈ fields, (f.valueType h.kind).base.IsPlainlyBound)
    (hfallback : ∀ f ∈ fields, f.FallbackInhabits h.kind)
    (hentries : ∀ e ∈ entries, e.2.Genuine)
    (hcells : FilledFrom h entries fields cells) : FieldsInhabit h fields (.ofFields cells) := by
  induction hcells with
  | nil => exact .nil
  | @cons f c fields cells hc hcells ih =>
    have hrest := ih (fun g hg => hfields g (List.mem_cons_of_mem f hg))
      fun g hg => hfallback g (List.mem_cons_of_mem f hg)
    -- Whatever entry is found, under whatever key, is converted to the type of this field.
    cases hv : entries.lookup f.key with
    | some v =>
      obtain ⟨w, hw, rfl⟩ := (Field.fill_of_some hv).1 hc
      have hplain := hfields f List.mem_cons_self
      exact .present (inhabits_of_convert hplain (genuine_of_lookup hentries hv) hw).1 hrest
    | none =>
      obtain ⟨hmay, rfl⟩ := (Field.fill_of_none hv).1 hc
      cases hf : f.fallback with
      | some v => exact .present (hfallback f List.mem_cons_self v hf) hrest
      | none =>
        rw [hf] at hmay
        exact .omitted (hmay.resolve_left Bool.false_ne_true) hrest

end Record

end TypedHeaders
