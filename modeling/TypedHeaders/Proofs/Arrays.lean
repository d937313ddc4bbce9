import TypedHeaders.Proofs.Absence
import TypedHeaders.Proofs.Settling

/-!
# Arrays keep their values

All values of its header are bound to an array: each is cast and converted, and
the results are collected in order. A list, a tuple or a sequence has all of them;
a set has one of those that are the same (`IsSetOf`). The first value that cannot
be cast is reported.

The notes of an array parameter make no difference to that. They convert the
collection once more, which may fail, but where it succeeds every item is found as
it was (`Parameter.Collects.eq_of_convert_again`), and no two elements of a set are
the same that were not so before. Only notes on the items that reshape their texts
(`TypeExpr.isReshaped`) would do so a second time.

* `Parameter.collects_of_declare`: which parameters this is about;
* `Parameter.of_finish_array`: their notes leave the collection as it is;
* `Parameter.bindFilled_array_unconstrained`: without constraints nothing is refused;
* `populate_array`: what becomes of the values of a header.
-/

namespace TypedHeaders

open Converted

/-! ## Notes that leave texts as they are -/

namespace Reshaping

/-- Is white space removed? -/
def strips (r : Reshaping) : Bool := r.strip = some true

/-- Is the text put into upper case? -/
def raises (r : Reshaping) : Bool := r.toUpper = some true

/-- Is the text put into lower case? -/
def lowers (r : Reshaping) : Bool := r.toLower = some true

end Reshaping

namespace Constraint

/-- Is a text changed? -/
def transforms : Constraint → Bool
  | .reshape r => r.strips || r.raises || r.lowers
  | _ => false

variable {cs : List Constraint} {c : Constraint}

theorem not_transforms_reshape {r : Reshaping} :
    (reshape r).transforms = false ↔
      r.strip ≠ some true ∧ r.toUpper ≠ some true ∧ r.toLower ≠ some true := by
  simp [transforms, Reshaping.strips, Reshaping.raises, Reshaping.lowers, and_assoc]

theorem reshaped_of_not_transforms (hc : c.transforms = false) (s : String) : c.reshaped s = s := by
  cases c with
  | reshape r =>
    obtain ⟨hstrip, hupper, hlower⟩ := not_transforms_reshape.1 hc
    simp [reshaped, Reshaping.apply, hstrip, hupper, hlower]
  | _ => rfl

theorem reshapedBy_of_not_transforms (hcs : ∀ c ∈ cs, c.transforms = false) (s : String) :
    reshapedBy cs s = s := by
  induction cs with
  | nil => rfl
  | cons c cs ih =>
    rw [reshapedBy_cons, reshaped_of_not_transforms (hcs c List.mem_cons_self),
      ih fun d hd => hcs d (List.mem_cons_of_mem c hd)]

/-- An atom that is checked by constraints that change no text stays as it is. -/
theorem eq_of_checkAll_atom (hcs : ∀ c ∈ cs, c.transforms = false) {schema : String} {a : Atom}
    {w : Value} (hw : checkAll schema cs (.atom a) = .ok w) : w = .atom a := by
  cases hreshaping : cs.any isReshaping with
  | false => exact eq_of_checkAll hreshaping hw
  | true =>
    obtain ⟨s, hs, rfl⟩ := checkAll_of_reshaping hreshaping hw
    rw [reshapedBy_of_not_transforms hcs]
    cases a with
    | text t => rw [← Except.ok.inj hs]
    | _ => cases hs

end Constraint

theorem orElse_ne_some {a b : Option Bool} (ha : a ≠ some true) (hb : b ≠ some true) :
    (a <|> b) ≠ some true := by
  cases a with
  | none => exact hb
  | some x => exact ha

/-- Limits that are put together of constraints that change no text do not change any. -/
theorem Limits.not_transforms_foldl_add {cs : List Constraint}
    (hcs : ∀ c ∈ cs, c.transforms = false) (l : Limits)
    (hl : (Constraint.reshape l.reshaping).transforms = false) :
    (Constraint.reshape (cs.foldl add l).reshaping).transforms = false := by
  induction cs generalizing l with
  | nil => exact hl
  | cons c cs ih =>
    refine ih (fun d hd => hcs d (List.mem_cons_of_mem c hd)) _ ?_
    have hc := hcs c List.mem_cons_self
    cases c with
    | reshape r =>
      rw [Constraint.not_transforms_reshape] at hc hl ⊢
      exact ⟨orElse_ne_some hc.1 hl.1, orElse_ne_some hc.2.1 hl.2.1,
        orElse_ne_some hc.2.2 hl.2.2⟩
    | _ => exact hl

theorem Limits.eq_of_reshape {l : Limits} {s t : String}
    (hl : (Constraint.reshape l.reshaping).transforms = false) (ht : l.reshape s = .ok t) :
    t = s := by
  obtain ⟨hstrip, hupper, hlower⟩ := Constraint.not_transforms_reshape.1 hl
  have hstripped : l.stripped s.toList = s.toList := if_neg hstrip
  obtain ⟨-, ht⟩ := reshape_eq_ok.1 ht
  rw [Reshaping.casing?, if_neg hlower, if_neg hupper, hstripped] at ht
  exact ht.trans String.ofList_toList

/-- A text that is converted under constraints that change no text stays as it is. -/
theorem eq_of_convert_text {cs : List Constraint} (hcs : ∀ c ∈ cs, c.transforms = false)
    {s : String} {w : Value} (hw : (convert (.plain .str) cs (.text s)).result = .ok w) :
    w = .text s := by
  obtain ⟨t, ht, hrun⟩ := convert_text_eq_ok.1 hw
  rw [Limits.eq_of_reshape (Limits.not_transforms_foldl_add
    (fun c hc => hcs c ((List.takeWhile_prefix _).subset hc)) {} rfl) ht] at hrun
  exact Constraint.eq_of_checkAll_atom
    (fun c hc => hcs c ((List.dropWhile_suffix _).subset hc)) hrun

/-! ## Items stay as they are -/

/-- Do the notes around a type reshape its texts? Of the members of an enumeration, any note makes
    texts that is there to reshape. -/
def TypeExpr.isReshaped (t : TypeExpr) : Bool :=
  t.stated.any fun c => c.transforms || (t.unwrap matches .enum _) && c.isReshaping

/-- Of a listed value, unless it is one among such numbers, no other one is made. -/
theorem eq_of_convertLiteral_listed {values : List Atom} {a b : Atom} (ha : a ∈ values)
    (hfraction : a.isFractional = false) (hb : convertLiteral values (.atom a) = .ok b) : b = a := by
  simp only [convertLiteral] at hb
  split_ifs at hb with hsize hmem
  · exact (Except.ok.inj hb).symm
  · refine absurd ?_ hmem
    rw [Bool.and_eq_true]
    refine ⟨List.contains_iff_mem.2 ha, ?_⟩
    cases a with
    | number n => cases n <;> first | rfl | cases hfraction
    | _ => rfl

section Items

variable {t : TypeExpr} {p : PlainType} {cs : List Constraint} {tag : Tag} {a : Atom} {v w : Value}

/-- What is a number or a truth value of a plain type already stays as it is. -/
theorem eq_of_convert_plain (hp : p ≠ .str) (hv : Inhabits (.plain p) cs v)
    (hw : (convert (.plain p) cs v).result = .ok w) : w = v := by
  rw [convert] at hw
  obtain ⟨x, hx, hcheck⟩ := TypeExpr.within_result_eq_ok.1 hw
  cases hv with
  | text s => exact absurd rfl hp
  | bool b =>
    obtain ⟨_, ⟨⟩, hx⟩ := bind_result_eq_ok.1 hx
    cases hx
    exact Constraint.eq_of_checkAll_of_not_text (fun _ => refuse_result_ne_ok) hcheck
  | int | float | decimal =>
    obtain ⟨_, ⟨⟩, hx⟩ := bind_result_eq_ok.1 hx
    obtain ⟨-, -, hx⟩ := bind_result_eq_ok.1 hx
    cases hx
    exact Constraint.eq_of_checkAll_of_not_text (fun _ => refuse_result_ne_ok) hcheck
  | reshaped ht => cases ht

/-- What an atom is converted to by a scalar without notes around it is converted to nothing else
    under constraints that change no text. Of the members of an enumeration no texts are made, and
    listed numbers that need not be integers are of the tag of the atom. -/
theorem eq_of_convert_again (hu : t.unwrap = t) (ht : t.scalarTag?.isSome = true)
    (hcs : ∀ c ∈ cs, c.transforms = false)
    (henum : ∀ e, t = .enum e → cs.any Constraint.isReshaping = false)
    (hlisted : t.scalarTag? = some tag ∨
      ∀ values, t = .literal values → ∀ c ∈ values, c.isFractional = false)
    (ha : a.CastBy tag) (hv : (convert t cs (.atom a)).result = .ok v)
    (hw : (convert t cs v).result = .ok w) : w = v := by
  -- Most often the conversion has that value itself.
  have heq (hself : (convert t cs v).result = .ok v) : w = v :=
    Except.ok.inj (hw.symm.trans hself)
  cases t with
  | plain p =>
    by_cases hp : p = .str
    · subst hp
      have htext := hv
      rw [convert] at htext
      obtain ⟨x, hx, -⟩ := TypeExpr.within_result_eq_ok.1 htext
      obtain ⟨s, hs, -⟩ := bind_result_eq_ok.1 hx
      cases a with
      | text s =>
        obtain rfl := eq_of_convert_text hcs hv
        exact eq_of_convert_text hcs hw
      | _ => cases hs
    · exact eq_of_convert_plain hp (inhabits_of_convert_scalar (.atom a) _ cs ht hv) hw
  | enum e => exact heq (convert_again_of_enum (.inl (henum e rfl)) (.atom a) hv)
  | literal values =>
    rw [convert] at hv hw
    obtain ⟨x, hx, hv⟩ := (TypeExpr.within_result_of_checks_none fun _ => rfl).1 hv
    obtain ⟨b, hb, rfl⟩ := map_eq_ok.1 (ofReason_result_eq_ok.1 hx)
    obtain rfl := Constraint.eq_of_checkAll_atom hcs hv
    obtain ⟨y, hy, hw⟩ := (TypeExpr.within_result_of_checks_none fun _ => rfl).1 hw
    obtain ⟨c, hc, rfl⟩ := map_eq_ok.1 (ofReason_result_eq_ok.1 hy)
    rw [Constraint.eq_of_checkAll_atom hcs hw]
    rcases hlisted with htag | hlisted
    · have hself := convertLiteral_again (TypeExpr.commonTag?_eq_some_iff.1 htag).2 ha hb
      rw [Except.ok.inj (hc.symm.trans hself)]
    · have hmem := mem_of_convertLiteral hb
      rw [eq_of_convertLiteral_listed hmem (hlisted values rfl b hmem) hc]
  | annotated => exact absurd hu (TypeExpr.unwrap_ne_annotated _)
  | _ => cases ht

end Items

/-! ## Arrays -/

/-- A list is related item by item only to itself, if each item is. -/
theorem eq_of_forall₂ {α : Type} {R : α → α → Prop} {xs ys : List α} (h : List.Forall₂ R xs ys)
    (hR : ∀ x ∈ xs, ∀ y, R x y → y = x) : ys = xs := by
  induction h with
  | nil => rfl
  | @cons x y xs ys hxy _ ih =>
    rw [hR x List.mem_cons_self y hxy, ih fun x hx => hR x (List.mem_cons_of_mem _ hx)]

/-- Lists that are related item by item to the same list in between. -/
theorem forall₂_trans {α β γ : Type} {R : α → β → Prop} {S : β → γ → Prop} {as : List α}
    {bs : List β} {cs : List γ} (hR : List.Forall₂ R as bs) (hS : List.Forall₂ S bs cs) :
    List.Forall₂ (fun a c => ∃ b, R a b ∧ S b c) as cs := by
  induction hR generalizing cs with
  | nil => cases hS; exact .nil
  | cons ha _ ih =>
    cases hS with
    | cons hb hS => exact .cons ⟨_, ha, hb⟩ (ih hS)

/-- And there is such a list in between. -/
theorem exists_between {α β γ : Type} {R : α → β → Prop} {S : β → γ → Prop} {as : List α}
    {cs : List γ} (h : List.Forall₂ (fun a c => ∃ b, R a b ∧ S b c) as cs) :
    ∃ bs, List.Forall₂ R as bs ∧ List.Forall₂ S bs cs := by
  induction h with
  | nil => exact ⟨[], .nil, .nil⟩
  | cons hac _ ih =>
    obtain ⟨b, hab, hbc⟩ := hac
    obtain ⟨bs, hR, hS⟩ := ih
    exact ⟨b :: bs, .cons hab hR, .cons hbc hS⟩

section Elements

variable {form : CollectionForm} {item : TypeExpr} {cs : List Constraint}

/-- A value of a scalar type can be an element of a set. -/
theorem Inhabits.canBeElement {t : TypeExpr} {x : Value} (hu : t.unwrap = t)
    (ht : t.scalarTag?.isSome = true) (hx : Inhabits t cs x) : x.canBeElement = true := by
  cases hx with
  | annotated => exact absurd hu (TypeExpr.unwrap_ne_annotated _)
  | collection | nothing | inUnion | record => cases ht
  | _ => rfl

theorem canBeElement_of_convert_item {v x : Value} (ht : item.scalarTag?.isSome = true)
    (hv : v.Genuine) (hx : (convert item [] v).result = .ok x) : x.canBeElement = true := by
  rw [convert_unwrap] at hx
  have ht : item.unwrap.scalarTag?.isSome = true := by
    rwa [TypeExpr.scalarTag?, TypeExpr.unwrap_unwrap]
  exact (inhabits_of_convert_scalar hv _ _ ht hx).canBeElement (TypeExpr.unwrap_unwrap item) ht

/-- Without constraints, atoms that are converted one by one are converted to a collection. -/
theorem convert_array_unconstrained (ht : item.scalarTag?.isSome = true) {as : List Atom}
    {ys : List Value}
    (hys : List.Forall₂ (fun a y => (convert item [] (.atom a)).result = .ok y) as ys) :
    (convert (.collection form item) [] (.collection .list (as.map .atom))).result =
      .ok (.collection form.kind (form.itemsOf ys)) := by
  have helements : ∀ y ∈ ys, y.canBeElement = true := fun y hy => by
    obtain ⟨a, -, hay⟩ := exists_of_forall₂ hys hy
    exact canBeElement_of_convert_item ht (.atom a) hay
  refine (convert_array_eq_ok ht).2 ⟨.list, _, ys, rfl, form.takes_list,
    List.forall₂_map_left_iff.2 hys, fun _ => helements, ?_, Limits.keptBySize_unlimited _, rfl⟩
  rw [CollectionForm.kindOf_list]

end Elements

/-! ## Array parameters -/

namespace Parameter

variable {p : Parameter} {tag : Tag} {form : CollectionForm} {item : TypeExpr} {w : Value}

/-- The parameter collects the values of its header, as items of a type whose texts are not
    reshaped. Its tag is that of the items, as it is if the parameter is declared; it may be another
    one, unless numbers that need not be integers are listed. -/
structure Collects (p : Parameter) (tag : Tag) (form : CollectionForm) (item : TypeExpr) : Prop where
  reading : ∃ d, p.reading = .array tag d
  base : p.type.base = .collection form item
  scalar : item.scalarTag?.isSome = true
  unreshaped : item.isReshaped = false
  listed : item.scalarTag? = some tag ∨
    ∀ values, item.unwrap = .literal values → ∀ c ∈ values, c.isFractional = false

/-- A declared array collects, unless the texts of its items are reshaped. -/
theorem collects_of_declare {convert : Bool} {name : String} {slot : Int} {declared : TypeExpr}
    {given : Option Marker} {d : Option RecordDescriptor}
    (hp : declare convert name slot declared given = .ok p) (hr : p.reading = .array tag d) :
    ∃ form item, p.type.base = .collection form item ∧
      (item.isReshaped = false → p.Collects tag form item) := by
  obtain ⟨⟨kind, tag', nilable⟩, hresolve, hp⟩ := bind_eq_ok.1 (ofType_of_declare hp)
  rw [TypeExpr.resolve_eq] at hresolve
  dsimp only at hp
  split at hp
  · cases Except.ok.inj hp
    cases hr
  · -- The type resolves to an array, so that its base is a collection.
    cases Except.ok.inj hp
    cases hr
    split at hresolve
    · cases hresolve
    · rename_i harray
      cases hresolve
      generalize hbase : (target declared).base = base at harray
      cases base with
      | collection form item =>
        have hscalar : item.scalarTag? = some tag := harray
        exact ⟨form, item, rfl, fun hitem =>
          ⟨⟨none, rfl⟩, hbase, by rw [hscalar]; rfl, hitem, .inl hscalar⟩⟩
      | _ => cases harray
    · split at hresolve <;> cases hresolve
  · obtain ⟨_, -, hp⟩ := bind_eq_ok.1 hp
    cases Except.ok.inj hp
    cases hr

theorem Collects.isArray (hp : p.Collects tag form item) : p.isArray = true := by
  obtain ⟨d, hd⟩ := hp.reading
  rw [Parameter.isArray, hd]
  rfl

/-- An item is converted to nothing else. -/
theorem Collects.eq_of_convert_again (hp : p.Collects tag form item) {a : Atom}
    (ha : a.CastBy tag) {v : Value} (hv : (TypedHeaders.convert item [] (.atom a)).result = .ok v)
    (hw : (TypedHeaders.convert item [] v).result = .ok w) : w = v := by
  rw [convert_unwrap, List.append_nil] at hv hw
  have hunwrap : item.unwrap.scalarTag? = item.scalarTag? := by
    rw [TypeExpr.scalarTag?, TypeExpr.unwrap_unwrap, ← TypeExpr.scalarTag?]
  have hstated : ∀ c ∈ item.stated,
      (c.transforms || (item.unwrap matches .enum _) && c.isReshaping) = false := by
    simpa [TypeExpr.isReshaped] using hp.unreshaped
  refine TypedHeaders.eq_of_convert_again (TypeExpr.unwrap_unwrap item) (hunwrap ▸ hp.scalar)
    (fun c hc => (Bool.or_eq_false_iff.1 (hstated c hc)).1) ?_ (hunwrap ▸ hp.listed) ha hv hw
  intro e he
  rw [List.any_eq_false]
  intro c hc
  have hc := (Bool.or_eq_false_iff.1 (hstated c hc)).2
  rw [he] at hc
  exact Bool.eq_false_iff.1 hc

/-- A list of cast atoms is finished as the collection of their conversions: the notes, if there are
    any, leave it as it is. -/
theorem of_finish_array (hp : p.Collects tag form item) {as : List Atom}
    (has : ∀ a ∈ as, a.CastBy tag) (hw : p.finish (.collection .list (as.map .atom)) = .ok w) :
    ∃ xs, List.Forall₂ (fun a x => item.convert (.atom a) = .ok x) as xs ∧
      w = .collection form.kind (form.itemsOf xs) := by
  have hunion : p.type.base.isUnion = false := by rw [hp.base]; rfl
  obtain ⟨x, hx, hw⟩ := finish_eq_ok hw
  rw [convert_eq_base_of_present [] hunion rfl, hp.base] at hx
  obtain ⟨_, _, xs, ⟨⟩, -, hxs, -, rfl, -⟩ := (convert_array_eq_ok hp.scalar).1 hx
  have hxs := List.forall₂_map_left_iff.1 hxs
  refine ⟨xs, hxs, ?_⟩
  rcases hw with ⟨-, rfl⟩ | ⟨-, hw⟩
  · rw [CollectionForm.kindOf_list]
  · rw [convert_stripOptional_eq_base _ hunion rfl, hp.base, CollectionForm.kindOf_list] at hw
    obtain ⟨_, _, ys, ⟨⟩, -, hys, -, rfl, -⟩ := (convert_array_eq_ok hp.scalar).1 hw
    have hsame : ys = form.itemsOf xs := eq_of_forall₂ hys fun x hx y hy => by
      obtain ⟨a, ha, hax⟩ := exists_of_forall₂ hxs ((form.itemsOf_sublist xs).subset hx)
      exact hp.eq_of_convert_again (has a ha) hax hy
    rw [hsame, CollectionForm.kindOf_kind, CollectionForm.itemsOf_itemsOf]

/-- Values of which each is cast, and finished as the collection of their conversions. -/
theorem of_bindFilled_array (hp : p.Collects tag form item) {first : String} {rest : List String}
    (hw : p.bindFilled tag first rest = .ok w) :
    ∃ xs, List.Forall₂ (fun t x => ∃ a, tag.cast t = .ok a ∧ item.convert (.atom a) = .ok x)
        (first :: rest) xs ∧ w = .collection form.kind (form.itemsOf xs) := by
  rw [bindFilled, hp.isArray] at hw
  split at hw
  · rename_i v hv
    obtain ⟨as, has, rfl⟩ := map_eq_ok.1 hv
    have has := mapM_eq_ok.1 has
    have hcast : ∀ a ∈ as, a.CastBy tag := fun a ha => by
      obtain ⟨t, -, ht⟩ := exists_of_forall₂ has ha
      exact Atom.castBy_of_cast ht
    obtain ⟨xs, hxs, rfl⟩ := of_finish_array hp hcast hw
    exact ⟨xs, forall₂_trans has hxs, rfl⟩
  · cases hw

/-- Without constraints, all values that can be cast and converted are collected. -/
theorem bindFilled_array_unconstrained (hp : p.Collects tag form item)
    (hbase : p.type.baseConstraints = []) (hnotes : p.notes = []) {first : String}
    {rest : List String} {xs : List Value}
    (hxs : List.Forall₂ (fun t x => ∃ a, tag.cast t = .ok a ∧ item.convert (.atom a) = .ok x)
      (first :: rest) xs) :
    p.bindFilled tag first rest = .ok (.collection form.kind (form.itemsOf xs)) := by
  have hunion : p.type.base.isUnion = false := by rw [hp.base]; rfl
  obtain ⟨as, has, hconverted⟩ := exists_between hxs
  have hcast : castTexts tag true first rest = .ok (.collection .list (as.map .atom)) :=
    map_eq_ok.2 ⟨as, mapM_eq_ok.2 has, rfl⟩
  have hconvert : p.convert (.collection .list (as.map .atom)) =
      .ok (.collection form.kind (form.itemsOf xs)) := by
    rw [convert, TypeExpr.convert_eq_ok.2]
    rw [convert_eq_base_of_present [] hunion rfl, hp.base, hbase]
    exact convert_array_unconstrained hp.scalar hconverted
  have hinactive : p.restriction.active = false := by rw [restriction, hnotes]; rfl
  rw [bindFilled, hp.isArray, hcast]
  change p.finish _ = _
  rw [finish, hconvert]
  change p.restriction.check p.header _ = _
  rw [Restriction.check, hinactive]
  rfl

/-- The first value that cannot be cast is reported. -/
theorem bindFilled_of_first_uncast (hp : p.Collects tag form item) {ts rest : List String}
    {first t : String} {values : List String} {e : CastError} (hvalues : first :: values = ts ++ t :: rest)
    (hts : ∀ u ∈ ts, ∃ a, tag.cast u = .ok a) (ht : tag.cast t = .error e) :
    p.bindFilled tag first values = .error (.uncast p.header e) := by
  have hcast : tag.castArray (first :: values) = .error e := by
    rw [hvalues]
    exact mapM_of_first_error hts ht
  rw [bindFilled, hp.isArray, castTexts, if_pos rfl, hcast]
  rfl

end Parameter

namespace BindingSet

/-- All values of its header are bound to an array, whatever the case in which the header's name
    came. Where populating succeeds, each of them is cast and converted; a list, a tuple or a
    sequence has the results in order, and a set is the set of them. Where no constraints are stated
    for the collection, nothing else is asked of the values. The first value that cannot be cast is
    reported, once the parameters before the array are bound. -/
theorem populate_array {s : BindingSet} {p : Parameter} {before after : List Parameter} {tag : Tag}
    {form : CollectionForm} {item : TypeExpr} (hs : s.params = before ++ p :: after)
    (hp : p.Collects tag form item) {items : List HeaderItem} {h : Headers}
    (hh : Headers.ofItems items = .ok h) (hpresent : linesUnder p.header items ≠ [])
    (hfilled : linesUnder p.header items ≠ [""]) (lenient : Bool) (old : Feed) :
    (∀ new, s.populate h lenient old = (new, none) →
      ∃ xs stored, List.Forall₂
          (fun t x => ∃ a, tag.cast t = .ok a ∧ item.convert (.atom a) = .ok x)
          (linesUnder p.header items) xs ∧
        form.IsMadeOf stored xs ∧
        ((∀ q ∈ after, p.Apart q) → new[p.slot]? = some (.collection form.kind stored) ∧
          new[p.slot + 1]? = some (.bool true))) ∧
    ∀ feed : Feed, old.populate h lenient before = (feed, none) →
      (∀ xs, List.Forall₂ (fun t x => ∃ a, tag.cast t = .ok a ∧ item.convert (.atom a) = .ok x)
          (linesUnder p.header items) xs →
        p.type.baseConstraints = [] → p.notes = [] → p.slot + 1 < feed.length →
          ∃ stored, form.IsMadeOf stored xs ∧ s.populate h lenient old =
            (feed.write p.slot (.collection form.kind stored)).populate h lenient after) ∧
      ∀ ts t rest e, linesUnder p.header items = ts ++ t :: rest →
        (∀ u ∈ ts, ∃ a, tag.cast u = .ok a) → tag.cast t = .error e →
          s.populate h lenient old = (feed, some (.uncast p.header e)) := by
  obtain ⟨d, hreading⟩ := hp.reading
  have htag : p.reading.ownTag? = some tag := by rw [hreading]; rfl
  obtain ⟨first, values, hvalues⟩ := List.exists_cons_of_ne_nil hpresent
  -- There are values, and not one empty one only, so that the array is bound from all of them.
  have hbind : p.bind h lenient = p.bindFilled tag first values := by
    rw [Parameter.bind_of_values htag (Headers.values_of_linesUnder_ne_nil hh hpresent), hvalues,
      Finding.ofValues_of_filled (hvalues ▸ hfilled)]
  rw [hvalues, populate, hs]
  refine ⟨fun new hnew => ?_, fun feed hbefore => ⟨fun xs hxs hbase hnotes hslot => ?_, ?_⟩⟩
  · obtain ⟨mid, hmid⟩ := Feed.of_populate_append hnew
    obtain ⟨w, hw, -, -⟩ := Feed.of_populate_cons hmid
    obtain ⟨xs, hxs, rfl⟩ := Parameter.of_bindFilled_array hp (hbind ▸ hw)
    refine ⟨xs, form.itemsOf xs, hxs, form.isMadeOf_itemsOf xs, fun hapart => ?_⟩
    obtain ⟨v, hv, hslots⟩ := Feed.slots_of_populate hapart hnew
    rw [hw] at hv
    exact Except.ok.inj hv ▸ hslots
  · have hbound := Parameter.bindFilled_array_unconstrained hp hbase hnotes hxs
    refine ⟨form.itemsOf xs, form.isMadeOf_itemsOf xs, ?_⟩
    rw [Feed.populate_append hbefore, Feed.populate_cons_of_ok (hbind.trans hbound) hslot]
  · intro ts t rest e hsplit hts ht
    rw [Feed.populate_append hbefore, Feed.populate_cons_of_error]
    rw [hbind, Parameter.bindFilled_of_first_uncast hp hsplit hts ht]

set_option maxRecDepth 20000 in
/-- Of the values `b`, nothing and `b` again a list has all three, also one with a limit, and a set
    is made of them; of the values `1`, `x` and `y` the second one is reported as no integer. -/
theorem populate_array_letters :
    let items : List HeaderItem :=
      [.pair (.text "Tag") (.many [.text "b", .text ""]), .pair (.text "n") (.one (.number (.int 1))),
        .pair (.text "TAG") (.one (.text "b")), .pair (.text "N") (.many [.text "x", .text "y"])]
    let letters (form : CollectionForm) (notes : List Note) : Parameter :=
      ⟨"tag", "tag", 0, .array .string, .collection form (.plain .str), false, notes⟩
    let limited : Parameter := letters .list [.limits { maxLength := some 3 }]
    let numbers : Parameter :=
      ⟨"n", "n", 2, .array .int, .collection .tuple (.plain .int), false, []⟩
    ∃ h, Headers.ofItems items = .ok h ∧
      (∃ new, populate { params := [limited] } h true (Feed.empty 4) = (new, none) ∧
        ∃ xs : List Value, xs.length = 3 ∧ new[0]? = some (.collection .list xs)) ∧
      (∃ stored, IsSetOf stored [.text "b", .text "", .text "b"] ∧
        populate { params := [letters .set []] } h true (Feed.empty 4) =
          ((Feed.empty 4).write 0 (.collection .set stored), none)) ∧
      ∃ feed, populate { params := [limited, numbers] } h true (Feed.empty 4) =
        (feed, some (.uncast "n" (.invalidInt "x"))) := by
  intro items letters limited numbers
  have hh : Headers.ofItems items = .ok ⟨[("tag", "b"), ("tag", ""), ("n", "1"), ("tag", "b"),
    ("n", "x"), ("n", "y")]⟩ := by
    subst items
    rfl
  have hbound : ∃ new, populate { params := [limited] } ⟨[("tag", "b"), ("tag", ""), ("n", "1"),
      ("tag", "b"), ("n", "x"), ("n", "y")]⟩ true (Feed.empty 4) = (new, none) := by
    have hsuccess (r : Feed × Option BindError) (hr : r.2.isNone = true) : ∃ new, r = (new, none) :=
      ⟨r.1, Prod.ext rfl (Option.isNone_iff_eq_none.1 hr)⟩
    exact hsuccess _ (by decide +kernel)
  generalize Headers.mk [("tag", "b"), ("tag", ""), ("n", "1"), ("tag", "b"), ("n", "x"),
    ("n", "y")] = h at hh hbound
  have htag : linesUnder "tag" items = ["b", "", "b"] := by decide +kernel
  have hn : linesUnder "n" items = ["1"] ++ "x" :: ["y"] := by decide +kernel
  have hletters (form : CollectionForm) (notes : List Note)
      (hp : Parameter.declare true "tag" 0
        (.annotated (.collection form (.plain .str)) (.marker {} :: notes)) none =
          .ok (letters form notes)) :
      (letters form notes).Collects .string form (.plain .str) := by
    obtain ⟨_, _, ⟨⟩, hcollects⟩ := Parameter.collects_of_declare hp rfl
    exact hcollects rfl
  have hnumbers : numbers.Collects .int .tuple (.plain .int) :=
    ⟨⟨none, rfl⟩, rfl, rfl, rfl, .inl rfl⟩
  have hparams (p : Parameter) : BindingSet.params { params := [p] } = [] ++ p :: [] := rfl
  have harray (form : CollectionForm) (notes : List Note)
      (hp : (letters form notes).Collects .string form (.plain .str)) :=
    populate_array (hparams (letters form notes)) hp hh (htag.trans_ne (by decide))
      (htag.trans_ne (by decide)) true (Feed.empty 4)
  obtain ⟨list, hlist⟩ := hbound
  refine ⟨h, hh, ⟨list, hlist, ?_⟩, ?_, list, ?_⟩
  · obtain ⟨xs, _, hxs, hstored, hslots⟩ := (harray .list _ (hletters _ _ (by cbv))).1 list hlist
    obtain rfl := hstored.ordered rfl
    have hlast : ∀ q ∈ ([] : List Parameter), limited.Apart q := fun q hq =>
      (List.not_mem_nil hq).elim
    exact ⟨_, hxs.length_eq.symm.trans (congrArg List.length htag), (hslots hlast).1⟩
  · have hconverted : List.Forall₂ (fun t x => ∃ a, Tag.cast .string t = .ok a ∧
        (TypeExpr.plain .str).convert (.atom a) = .ok x) (linesUnder "tag" items)
          [.text "b", .text "", .text "b"] := by
      rw [htag]
      exact .cons ⟨.text "b", rfl, by cbv⟩ (.cons ⟨.text "", rfl, by cbv⟩
        (.cons ⟨.text "b", rfl, by cbv⟩ .nil))
    obtain ⟨stored, hstored, hset⟩ :=
      ((harray .set [] (hletters _ _ (by cbv))).2 (Feed.empty 4) rfl).1 _ hconverted rfl rfl
        (by decide)
    exact ⟨stored, hstored.set rfl, hset⟩
  · have hboth : BindingSet.params { params := [limited, numbers] } = [limited] ++ numbers :: [] :=
      rfl
    have hcast : ∀ u ∈ ["1"], ∃ a, Tag.cast .int u = .ok a := fun u hu =>
      ⟨.number (.int 1), by rw [List.mem_singleton.1 hu]; cbv⟩
    exact ((populate_array hboth hnumbers hh (hn.trans_ne (by decide)) (hn.trans_ne (by decide)) true
      (Feed.empty 4)).2 list hlist).2 _ _ _ _ hn hcast (by cbv)

end BindingSet

end TypedHeaders
