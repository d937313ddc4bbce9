import TypedHeaders.Proofs.Results

/-!
# Gathering items

Each of the functions that gather converted items has a result exactly if every item
has one and the size is within the limits (`Limits.KeptBySize`), and which one it is
does not depend on the limits:

* a list or a tuple has the results of all items, in order (`gatherList_eq_ok`,
  `gatherTuple_eq_ok`);
* a set is made by adding them one by one, those that are the same as one before
  them apart (`gatherDistinct_eq_ok`, `gatherSet_eq_ok`), and only the elements that
  it has in the end are counted; it is the set of them (`IsSetOf`);
* so the items of any collection are made of the results (`CollectionForm.itemsOf`,
  `gather_eq_ok`).

What is said elsewhere of gathered items comes from these equivalences: problems that
are put off, items that are counted as they come and places do not matter for it.
-/

namespace TypedHeaders

open Converted

/-! ## Sizes -/

namespace Limits

variable {l : Limits}

theorem orRefuse_eq_ok {r : Option Reason} : orRefuse r = .ok () ↔ r = none := by
  cases r <;> simp [orRefuse]

/-- That many items are within the limits. -/
structure KeptBySize (l : Limits) (size : Nat) : Prop where
  min : ∀ n ∈ l.minLength, n ≤ size
  max : ∀ n ∈ l.maxLength, size ≤ n

/-- Where there are no limits, any number of items is within them. -/
theorem keptBySize_unlimited (size : Nat) : KeptBySize {} size :=
  ⟨fun _ hn => (Option.not_mem_none _ hn).elim, fun _ hn => (Option.not_mem_none _ hn).elim⟩

/-- A size is refused as too small or too large exactly if it is not within the limits. -/
theorem orRefuse_size_eq_ok {few many : Nat → Reason} {size : Nat} :
    orRefuse ((l.minLength.bind fun n => if size < n then some (few n) else none) <|>
      l.maxLength.bind fun n => if n < size then some (many n) else none) = .ok () ↔
        l.KeptBySize size := by
  rw [orRefuse_eq_ok, Option.orElse_eq_none]
  constructor
  · rintro ⟨hfew, hmany⟩
    refine ⟨fun n hn => ?_, fun n hn => ?_⟩
    · rw [Option.mem_def.1 hn] at hfew
      by_contra hlt
      simp [Nat.lt_of_not_le hlt] at hfew
    · rw [Option.mem_def.1 hn] at hmany
      by_contra hlt
      simp [Nat.lt_of_not_le hlt] at hmany
  · intro hsize
    constructor
    · cases hn : l.minLength with
      | none => rfl
      | some n => exact if_neg (Nat.not_lt.2 (hsize.min n hn))
    · cases hn : l.maxLength with
      | none => rfl
      | some n => exact if_neg (Nat.not_lt.2 (hsize.max n hn))

theorem checkSize_eq_ok {what : Sized} {counted : Bool} {size : Nat} :
    l.checkSize what counted size = .ok () ↔ l.KeptBySize size := orRefuse_size_eq_ok

end Limits

/-- A number is not above any limit. -/
theorem not_any_lt {limit : Option Nat} {n : Nat} :
    ¬limit.any (· < n) = true ↔ ∀ m ∈ limit, n ≤ m := by
  cases limit <;> simp

/-- A number is not below any limit. -/
theorem not_any_gt {limit : Option Nat} {n : Nat} :
    ¬limit.any (n < ·) = true ↔ ∀ m ∈ limit, m ≤ n := by
  cases limit <;> simp

/-- A problem that is put off is not lost. -/
theorem orElse_some_ne_none {problem : Option Problem} {p : Problem} :
    (problem <|> some p) ≠ none := by
  cases problem <;> exact nofun

/-- A list that is related to another one item by item begins with what the first item is related
    to. -/
theorem exists_forall₂_cons {α β : Type} {R : α → β → Prop} {a : α} {as : List α}
    {P : List β → Prop} :
    (∃ bs, List.Forall₂ R (a :: as) bs ∧ P bs) ↔
      ∃ b, R a b ∧ ∃ bs, List.Forall₂ R as bs ∧ P (b :: bs) := by
  constructor
  · rintro ⟨_, hab | ⟨hab, hbs⟩, hP⟩
    exact ⟨_, hab, _, hbs, hP⟩
  · rintro ⟨b, hab, bs, hbs, hP⟩
    exact ⟨b :: bs, .cons hab hbs, hP⟩

variable {l : Limits} {items : List (Converted Value)} {xs : List Value}

/-! ## Lists and tuples -/

/-- A list has the conversion of each item, in order. -/
theorem gatherList_eq_ok :
    (gatherList l items).result = .ok xs ↔
      List.Forall₂ (fun a x => a.result = .ok x) items xs ∧ l.KeptBySize xs.length := by
  have hall : (do
      let items ← Converted.all items
      .ofReason .exact (l.checkSize (.collection .list) true items.length)
      return items : Converted (List Value)).result = .ok xs ↔
        List.Forall₂ (fun a x => a.result = .ok x) items xs ∧ l.KeptBySize xs.length := by
    rw [bind_result_eq_ok]
    constructor
    · rintro ⟨ys, hys, hxs⟩
      obtain ⟨_, hsize, hxs⟩ := bind_result_eq_ok.1 hxs
      obtain rfl := pure_result_eq_ok.1 hxs
      exact ⟨all_result_eq_ok.1 hys, Limits.checkSize_eq_ok.1 (ofReason_result_eq_ok.1 hsize)⟩
    · rintro ⟨hxs, hsize⟩
      exact ⟨xs, all_result_eq_ok.2 hxs, bind_result_eq_ok.2
        ⟨(), ofReason_result_eq_ok.2 (Limits.checkSize_eq_ok.2 hsize), rfl⟩⟩
  unfold gatherList
  dsimp only
  split
  · rename_i n hn
    split
    · -- Too many items: whatever is reported, there is no result.
      rename_i hmany
      refine iff_of_false (by split <;> exact nofun) fun ⟨hxs, hsize⟩ => ?_
      exact Nat.not_le.2 hmany (hxs.length_eq ▸ hsize.max n hn)
    · exact hall
  · exact hall

section Tuple

variable {size : Nat} {places : Option Nat} {kept : Fitted (List Value)} {problem : Option Problem}

theorem gatherTuple_nil :
    gatherTuple l size places kept problem [] =
      if places.any (· < size) then
        .refuse (.tooManyItems (.collection .tuple) (places.getD 0) size)
      else if l.minLength.any (kept.value.length < ·) then
        .refuse (.tooFewItems (.collection .tuple) (l.minLength.getD 0) kept.value.length)
      else
        match problem with
        | some p => .error (.problem p)
        | none => .ok kept := rfl

theorem gatherTuple_problem {p : Problem} :
    gatherTuple l size places kept problem (.error (.problem p) :: items) =
      gatherTuple l size places kept (problem <|> some p) items := rfl

theorem gatherTuple_ok {v : Fitted Value} :
    gatherTuple l size places kept problem (.ok v :: items) =
      if l.maxLength.any (· < (kept.push v).value.length) then
        .refuse (.tooManyItems (.collection .tuple) (l.maxLength.getD 0) size)
      else gatherTuple l size places (kept.push v) problem items := rfl

/-- Without items a tuple has those that it had before, if there are not too few of them. -/
theorem gatherTuple_nil_eq_ok (hkept : ∀ n ∈ l.maxLength, kept.value.length ≤ n) :
    (gatherTuple l size places kept problem []).result = .ok xs ↔
      problem = none ∧ (∀ n ∈ places, size ≤ n) ∧ xs = kept.value ∧ l.KeptBySize xs.length := by
  rw [gatherTuple_nil]
  split
  · rename_i hplaces
    exact iff_of_false nofun fun ⟨_, h, _⟩ => not_any_lt.2 h hplaces
  · rename_i hplaces
    split
    · rename_i hfew
      refine iff_of_false nofun ?_
      rintro ⟨-, -, rfl, hsize⟩
      exact not_any_gt.2 hsize.min hfew
    · rename_i hfew
      cases problem with
      | some p => exact iff_of_false nofun nofun
      | none =>
        constructor
        · rintro ⟨⟩
          exact ⟨rfl, not_any_lt.1 hplaces, rfl, not_any_gt.1 hfew, hkept⟩
        · rintro ⟨-, -, rfl, -⟩
          rfl

/-- A tuple has the conversion of each item, after those that it had before, if those were not too
    many. -/
theorem gatherTuple_eq_ok (hkept : ∀ n ∈ l.maxLength, kept.value.length ≤ n) :
    (gatherTuple l size places kept problem items).result = .ok xs ↔
      problem = none ∧ (∀ n ∈ places, size ≤ n) ∧
        ∃ ys, List.Forall₂ (fun a y => a.result = .ok y) items ys ∧
          xs = kept.value ++ ys ∧ l.KeptBySize xs.length := by
  induction items generalizing kept problem with
  | nil =>
    simp only [gatherTuple_nil_eq_ok hkept, List.forall₂_nil_left_iff, exists_eq_left,
      List.append_nil]
  | cons a items ih =>
    rw [exists_forall₂_cons]
    match a with
    | .ok v =>
      have hpush (ys : List Value) : (kept.push v).value ++ ys = kept.value ++ v.value :: ys :=
        List.append_assoc _ _ _
      rw [gatherTuple_ok]
      split
      · -- The items that come after one too many are as many or more.
        rename_i hmany
        refine iff_of_false nofun ?_
        rintro ⟨-, -, _, ⟨⟩, ys, -, rfl, hsize⟩
        refine not_any_lt.2 (fun n hn => (Nat.le_add_right _ ys.length).trans ?_) hmany
        rw [← List.length_append, hpush]
        exact hsize.max n hn
      · rename_i hmany
        rw [ih (not_any_lt.1 hmany)]
        simp only [hpush]
        refine and_congr_right fun _ => and_congr_right fun _ => ⟨fun h => ⟨_, rfl, h⟩, ?_⟩
        rintro ⟨_, ⟨⟩, h⟩
        exact h
    | .error (.problem p) =>
      rw [gatherTuple_problem, ih hkept]
      exact iff_of_false (fun ⟨h, _⟩ => orElse_some_ne_none h) fun ⟨_, _, _, h, _⟩ => nomatch h
    | .error (.misuse m) | .error (.fault f) =>
      exact iff_of_false nofun fun ⟨_, _, _, h, _⟩ => nomatch h

/-- A tuple of any length has the conversions of all items. -/
theorem gatherTuple_all_eq_ok :
    (gatherTuple l size none ⟨[], {}⟩ none items).result = .ok xs ↔
      List.Forall₂ (fun a x => a.result = .ok x) items xs ∧ l.KeptBySize xs.length := by
  rw [gatherTuple_eq_ok fun _ _ => Nat.zero_le _]
  simp

end Tuple

/-! ## Sets -/

/-- The elements of a set with one more, which is dropped if it is the same as one of them. -/
def addElement (kept : List Value) (x : Value) : List Value :=
  if kept.any (·.sameElement x) then kept else kept ++ [x]

/-- The elements of a set that is made of some values: each of them is there, or one that is the
    same, and no two elements are the same. -/
structure IsSetOf (elements xs : List Value) : Prop where
  sublist : elements.Sublist xs
  distinct : elements.Pairwise fun x y => x.sameElement y = false
  covers : ∀ x ∈ xs, x ∈ elements ∨ ∃ y ∈ elements, y.sameElement x = true

theorem IsSetOf.addElement {kept xs : List Value} (h : IsSetOf kept xs) (x : Value) :
    IsSetOf (addElement kept x) (xs ++ [x]) := by
  rw [TypedHeaders.addElement]
  split
  · rename_i hany
    refine ⟨h.sublist.trans (List.sublist_append_left xs [x]), h.distinct, fun y hy => ?_⟩
    rcases List.mem_append.1 hy with hy | hy
    · exact h.covers y hy
    · rw [List.mem_singleton.1 hy]
      exact .inr (List.any_eq_true.1 hany)
  · rename_i hnew
    rw [Bool.not_eq_true, List.any_eq_false] at hnew
    refine ⟨h.sublist.append (List.Sublist.refl [x]),
      List.pairwise_append.2 ⟨h.distinct, List.pairwise_singleton _ _, fun y hy z hz => ?_⟩,
      fun y hy => ?_⟩
    · rw [List.mem_singleton.1 hz]
      exact Bool.eq_false_iff.2 (hnew y hy)
    · rcases List.mem_append.1 hy with hy | hy
      · exact (h.covers y hy).imp (List.mem_append_left _) fun ⟨z, hz, hsame⟩ =>
          ⟨z, List.mem_append_left _ hz, hsame⟩
      · exact .inl (List.mem_append_right _ hy)

/-- Values that are added one by one make a set of them. -/
theorem isSetOf_foldl {kept xs : List Value} (h : IsSetOf kept xs) (ys : List Value) :
    IsSetOf (ys.foldl addElement kept) (xs ++ ys) := by
  induction ys generalizing kept xs with
  | nil => rwa [List.append_nil]
  | cons y ys ih =>
    rw [List.foldl_cons, List.append_cons]
    exact ih (h.addElement y)

/-- Elements are never dropped again. -/
theorem length_le_foldl_addElement (kept ys : List Value) :
    kept.length ≤ (ys.foldl addElement kept).length := by
  induction ys generalizing kept with
  | nil => exact Nat.le_refl _
  | cons y ys ih =>
    refine Nat.le_trans ?_ (ih (addElement kept y))
    rw [addElement]
    split
    · exact Nat.le_refl _
    · exact (List.prefix_append kept [y]).length_le

/-- If no two elements are the same, then each is the same as none of those before it. -/
theorem any_sameElement_of_distinct {kept : List Value} {x : Value}
    (h : (kept ++ x :: xs).Pairwise fun x y => x.sameElement y = false) :
    kept.any (·.sameElement x) = false := by
  rw [List.any_eq_false]
  intro y hy
  rw [(List.pairwise_append.1 h).2.2 y hy x List.mem_cons_self]
  exact Bool.false_ne_true

/-- All elements of a set are kept as they are added again. -/
theorem foldl_addElement_of_distinct {kept xs : List Value}
    (h : (kept ++ xs).Pairwise fun x y => x.sameElement y = false) :
    xs.foldl addElement kept = kept ++ xs := by
  induction xs generalizing kept with
  | nil => exact (List.append_nil kept).symm
  | cons x xs ih =>
    have hnew := any_sameElement_of_distinct h
    rw [List.append_cons] at h ⊢
    rw [List.foldl_cons, addElement, hnew, ← ih h]
    rfl

section Set

variable {kind : CollectionKind} {limit : Option Nat} {kept : Fitted (List Value)}
  {problem : Option Problem} {placed : List (Nat × Converted Value)} {place : Nat}

/-- The items of a set with one more, which is dropped if it is there already. -/
def keepDistinct (kept : Fitted (List Value)) (v : Fitted Value) : Fitted (List Value) :=
  if kept.value.any (·.sameElement v.value) then { kept with fit := kept.fit.both v.fit }
  else kept.push v

theorem value_keepDistinct (kept : Fitted (List Value)) (v : Fitted Value) :
    (keepDistinct kept v).value = addElement kept.value v.value := by
  rw [keepDistinct, addElement]
  split <;> rfl

theorem gatherDistinct_nil :
    gatherDistinct kind limit kept problem [] =
      match problem with
      | some p => .error (.problem p)
      | none => .ok kept := rfl

theorem gatherDistinct_problem {p : Problem} :
    gatherDistinct kind limit kept problem ((place, .error (.problem p)) :: placed) =
      gatherDistinct kind limit kept (problem <|> some p) placed := rfl

theorem gatherDistinct_ok {v : Fitted Value} :
    gatherDistinct kind limit kept problem ((place, .ok v) :: placed) =
      if !v.value.canBeElement then
        gatherDistinct kind limit kept
          (problem <|> some ⟨[Numeral.integerText place], .notElement⟩) placed
      else if limit.any (· < (keepDistinct kept v).value.length) then
        .refuse (.tooManyItems (.collection kind) (limit.getD 0) none)
      else gatherDistinct kind limit (keepDistinct kept v) problem placed := rfl

/-- To the elements that a set had before, if those were not too many, the conversion of each item
    is added, if it can be an element. -/
theorem gatherDistinct_eq_ok (hkept : ∀ n ∈ limit, kept.value.length ≤ n) :
    (gatherDistinct kind limit kept problem placed).result = .ok xs ↔
      problem = none ∧ ∃ ys, List.Forall₂ (fun a y => a.2.result = .ok y) placed ys ∧
        (∀ y ∈ ys, y.canBeElement = true) ∧ xs = ys.foldl addElement kept.value ∧
          ∀ n ∈ limit, xs.length ≤ n := by
  induction placed generalizing kept problem with
  | nil =>
    rw [gatherDistinct_nil]
    simp only [List.forall₂_nil_left_iff, exists_eq_left, List.foldl_nil]
    cases problem with
    | some p => exact iff_of_false nofun nofun
    | none =>
      constructor
      · rintro ⟨⟩
        exact ⟨rfl, fun _ hy => (List.not_mem_nil hy).elim, rfl, hkept⟩
      · rintro ⟨-, -, rfl, -⟩
        rfl
  | cons a placed ih =>
    rw [exists_forall₂_cons]
    match a with
    | (place, .ok v) =>
      rw [gatherDistinct_ok]
      split
      · rename_i hv
        -- What cannot be an element is a problem, and a problem stays one.
        rw [Bool.not_eq_true'] at hv
        rw [ih hkept]
        refine iff_of_false (fun ⟨h, _⟩ => orElse_some_ne_none h) ?_
        rintro ⟨-, _, ⟨⟩, ys, -, helements, -⟩
        exact Bool.false_ne_true (hv.symm.trans (helements _ List.mem_cons_self))
      · rename_i hv
        rw [Bool.not_eq_true', Bool.not_eq_false] at hv
        split
        · -- Once there is one element too many, there is.
          rename_i hmany
          refine iff_of_false nofun ?_
          rintro ⟨-, _, ⟨⟩, ys, -, -, rfl, hlimit⟩
          refine not_any_lt.2 (fun n hn => ?_) hmany
          rw [value_keepDistinct]
          exact (length_le_foldl_addElement _ ys).trans (hlimit n hn)
        · rename_i hmany
          rw [ih (not_any_lt.1 hmany), value_keepDistinct]
          refine and_congr_right fun _ => ⟨?_, ?_⟩
          · rintro ⟨ys, hys, helements, hxs⟩
            exact ⟨_, rfl, ys, hys, List.forall_mem_cons.2 ⟨hv, helements⟩, hxs⟩
          · rintro ⟨_, ⟨⟩, ys, hys, helements, hxs⟩
            exact ⟨ys, hys, (List.forall_mem_cons.1 helements).2, hxs⟩
    | (place, .error (.problem p)) =>
      rw [gatherDistinct_problem, ih hkept]
      exact iff_of_false (fun ⟨h, _⟩ => orElse_some_ne_none h) fun ⟨_, _, h, _⟩ => nomatch h
    | (place, .error (.misuse m)) | (place, .error (.fault f)) =>
      exact iff_of_false nofun fun ⟨_, _, h, _⟩ => nomatch h

/-- The places of items do not count for a set either. -/
theorem forall₂_zipIdx (n : Nat) :
    List.Forall₂ (fun a x => a.2.result = .ok x)
      ((items.zipIdx n).map fun (v, i) => (i, v)) xs ↔
        List.Forall₂ (fun a x => a.result = .ok x) items xs := by
  induction items generalizing n xs with
  | nil =>
    rw [List.zipIdx_nil, List.map_nil, List.forall₂_nil_left_iff, List.forall₂_nil_left_iff]
  | cons a items ih =>
    rw [List.zipIdx_cons, List.map_cons, List.forall₂_cons_left_iff, List.forall₂_cons_left_iff]
    simp only [ih]

/-- A set has the conversions of items that can be elements, each of those that are the same once. -/
theorem gatherSet_eq_ok :
    (gatherSet kind l items).result = .ok xs ↔
      ∃ ys, List.Forall₂ (fun a y => a.result = .ok y) items ys ∧
        (∀ y ∈ ys, y.canBeElement = true) ∧ xs = ys.foldl addElement [] ∧
          l.KeptBySize xs.length := by
  have hempty : ∀ n ∈ l.maxLength, (⟨[], {}⟩ : Fitted (List Value)).value.length ≤ n :=
    fun n _ => Nat.zero_le n
  constructor
  · intro hxs
    obtain ⟨_, hys, hxs⟩ := bind_result_eq_ok.1 hxs
    obtain ⟨_, hsize, hxs⟩ := bind_result_eq_ok.1 hxs
    obtain rfl := pure_result_eq_ok.1 hxs
    obtain ⟨-, ys, hys, helements, hxs, -⟩ := (gatherDistinct_eq_ok hempty).1 hys
    exact ⟨ys, (forall₂_zipIdx 0).1 hys, helements, hxs,
      Limits.checkSize_eq_ok.1 (ofReason_result_eq_ok.1 hsize)⟩
  · rintro ⟨ys, hys, helements, hxs, hsize⟩
    exact bind_result_eq_ok.2 ⟨xs, (gatherDistinct_eq_ok hempty).2
        ⟨rfl, ys, (forall₂_zipIdx 0).2 hys, helements, hxs, hsize.max⟩,
      bind_result_eq_ok.2 ⟨(), ofReason_result_eq_ok.2 (Limits.checkSize_eq_ok.2 hsize), rfl⟩⟩

end Set

/-! ## Collections -/

namespace CollectionForm

/-- Is it a form of set? -/
def isSet (form : CollectionForm) : Bool := form.kind = .set || form.kind = .frozenset

/-- The items of a collection of that form that is made of some values. -/
def itemsOf (form : CollectionForm) (xs : List Value) : List Value :=
  if form.isSet then xs.foldl addElement [] else xs

/-- The items of a collection of that form are made of some values: in a list, a tuple or a sequence
    there are all of them, in order, and a set is the set of them. -/
structure IsMadeOf (form : CollectionForm) (items xs : List Value) : Prop where
  ordered : form.isSet = false → items = xs
  set : form.isSet = true → IsSetOf items xs

theorem isMadeOf_itemsOf (form : CollectionForm) (xs : List Value) :
    form.IsMadeOf (form.itemsOf xs) xs where
  ordered h := by
    rw [itemsOf, h]
    rfl
  set h := by
    rw [itemsOf, if_pos h]
    exact isSetOf_foldl ⟨.refl [], .nil, fun _ hx => (List.not_mem_nil hx).elim⟩ xs

theorem itemsOf_sublist (form : CollectionForm) (xs : List Value) :
    (form.itemsOf xs).Sublist xs := by
  cases h : form.isSet with
  | false => rw [(form.isMadeOf_itemsOf xs).ordered h]
  | true => exact ((form.isMadeOf_itemsOf xs).set h).sublist

/-- Once they are the items of a collection, they stay so. -/
theorem itemsOf_itemsOf (form : CollectionForm) (xs : List Value) :
    form.itemsOf (form.itemsOf xs) = form.itemsOf xs := by
  cases h : form.isSet with
  | false => rw [(form.isMadeOf_itemsOf _).ordered h]
  | true =>
    conv_lhs => rw [itemsOf, if_pos h]
    exact foldl_addElement_of_distinct ((form.isMadeOf_itemsOf xs).set h).distinct

end CollectionForm

section Collection

variable {form : CollectionForm} {w : Value}

/-- A collection is made of the conversions of all items. Those of a set can be its elements. -/
theorem gather_eq_ok :
    (gather form.kind l items).result = .ok w ↔
      ∃ ys, List.Forall₂ (fun a y => a.result = .ok y) items ys ∧
        (form.isSet = true → ∀ y ∈ ys, y.canBeElement = true) ∧
          w = .collection form.kind (form.itemsOf ys) ∧
            l.KeptBySize (form.itemsOf ys).length := by
  have hset : form.isSet = (form.kind = .set || form.kind = .frozenset) := rfl
  cases hkind : form.kind with
  | list | tuple =>
    rw [hkind] at hset
    have hset : form.isSet = false := hset
    have hitems (ys : List Value) : form.itemsOf ys = ys := (form.isMadeOf_itemsOf ys).ordered hset
    simp only [hset, hitems, Bool.false_eq_true, false_implies, true_and]
    refine bind_result_eq_ok.trans ?_
    simp only [gatherList_eq_ok, gatherTuple_all_eq_ok, forall₂_placed, pure_result_eq_ok]
    constructor
    · rintro ⟨ys, ⟨hys, hsize⟩, rfl⟩
      exact ⟨ys, hys, rfl, hsize⟩
    · rintro ⟨ys, hys, rfl, hsize⟩
      exact ⟨ys, ⟨hys, hsize⟩, rfl⟩
  | set | frozenset =>
    rw [hkind] at hset
    have hset : form.isSet = true := hset
    have hitems (ys : List Value) : form.itemsOf ys = ys.foldl addElement [] := if_pos hset
    simp only [hset, hitems, true_implies]
    refine bind_result_eq_ok.trans ?_
    simp only [gatherSet_eq_ok, forall₂_placed, pure_result_eq_ok]
    constructor
    · rintro ⟨_, ⟨ys, hys, helements, rfl, hsize⟩, rfl⟩
      exact ⟨ys, hys, helements, rfl, hsize⟩
    · rintro ⟨ys, hys, helements, rfl, hsize⟩
      exact ⟨_, ⟨ys, hys, helements, rfl, hsize⟩, rfl⟩

end Collection

end TypedHeaders
