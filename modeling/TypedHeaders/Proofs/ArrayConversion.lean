import TypedHeaders.Resolution
import TypedHeaders.Proofs.Checks
import TypedHeaders.Proofs.Collections

/-!
# The conversion to arrays

An array is a collection of scalars. A collection is converted to it item by item, and
the array is made of the results (`convert_array_eq_ok`). Nothing else is converted to
an array. There are two kinds of constraints: those that the type checks itself are
limits, of which the ones on the size count, and the others are checked one by one on
the array, which they leave as it is.

Whatever is said of arrays elsewhere — that they inhabit their types, keep to their
limits, and are converted to themselves — follows from that and from what is said of
scalars.
-/

namespace TypedHeaders

open Converted

/-! ## Scalars are not anything -/

/-- A type of scalars is not that of anything. -/
theorem holdsAnything_of_scalarTag : (t : TypeExpr) → t.scalarTag?.isSome = true →
    t.holdsAnything = false
  | .annotated t notes, ht => by
    rw [TypeExpr.holdsAnything, holdsAnything_of_scalarTag t ht, Bool.false_and]
  | .plain p, ht => by cases p <;> first | rfl | cases ht
  | .enum _, _ | .literal _, _ | .collection _ _, _ | .fixedTuple _, _ | .mapping _ _, _
  | .union _ _, _ | .presence _ _, _ | .record _ _, _ => rfl

theorem not_isAny_of_scalarTag {t : TypeExpr} (ht : t.scalarTag?.isSome = true) :
    t.isAny = false := by
  cases t with
  | plain p => cases p <;> first | rfl | cases ht
  | _ => rfl

/-! ## What arrays are made of -/

namespace CollectionForm

/-- The kinds of collection that are converted to arrays of that form: no sequence is made of a
    set. -/
def Takes (form : CollectionForm) (kind : CollectionKind) : Prop :=
  form = .sequence → kind = .list ∨ kind = .tuple

/-- The kind of the array that a collection of some kind is converted to: only a sequence keeps
    it. -/
def kindOf (form : CollectionForm) (kind : CollectionKind) : CollectionKind :=
  if form = .sequence then kind else form.kind

variable {form : CollectionForm} {kind : CollectionKind}

theorem takes_list (form : CollectionForm) : form.Takes .list := fun _ => .inl rfl

theorem takes_kind (form : CollectionForm) : form.Takes form.kind := by
  rintro rfl
  exact .inl rfl

theorem kindOf_of_ne_sequence (hform : form ≠ .sequence) : form.kindOf kind = form.kind :=
  if_neg hform

@[simp] theorem kindOf_list (form : CollectionForm) : form.kindOf .list = form.kind := by
  cases form <;> rfl

/-- What was made of a list is converted to an array of the same kind. -/
@[simp] theorem kindOf_kind (form : CollectionForm) : form.kindOf form.kind = form.kind := by
  cases form <;> rfl

end CollectionForm

/-- Any collection has the items for one of some kind. -/
theorem itemsFor_eq_ok {kind : CollectionKind} {v : Value} {vs : List Value} :
    (itemsFor kind v).result = .ok vs ↔ ∃ k, v = .collection k vs := by
  unfold itemsFor
  split
  · rw [ofReason_result_eq_ok]
    exact ⟨fun h => ⟨_, by rw [Except.ok.inj h]⟩, fun ⟨_, h⟩ => by cases h; rfl⟩
  · rename_i hv
    exact iff_of_false nofun fun ⟨k, h⟩ => hv k vs h

/-- Lists and tuples are sequences of items. -/
theorem asSequence_eq_ok {kind : CollectionKind} {v : Value} {vs : List Value} :
    asSequence v = .ok (kind, vs) ↔ v = .collection kind vs ∧ (kind = .list ∨ kind = .tuple) := by
  constructor
  · intro hv
    unfold asSequence at hv
    split at hv
    · cases hv
      exact ⟨rfl, .inl rfl⟩
    · cases hv
      exact ⟨rfl, .inr rfl⟩
    all_goals cases hv
  · rintro ⟨rfl, rfl | rfl⟩ <;> rfl

theorem toText_collection_ne_ok {kind : CollectionKind} {items : List Value} (s : String) :
    (Scalar.toText (.collection kind items)).result ≠ .ok s := refuse_result_ne_ok

section Convert

variable {form : CollectionForm} {item : TypeExpr} {l : Limits} {cs : List Constraint} {v w : Value}

/-- A sequence has the conversions of all items. -/
theorem convert_sequence_eq_ok (ht : item.scalarTag?.isSome = true) :
    (if item.isAny then convertSequence v
      else do
        let (kind, items) ← ofReason .exact (asSequence v)
        let items ← Converted.all (placed (items.map fun w => convert item [] w))
        return .collection kind items).result = .ok w ↔
      ∃ kind vs ys, v = .collection kind vs ∧ (kind = .list ∨ kind = .tuple) ∧
        List.Forall₂ (fun v y => (convert item [] v).result = .ok y) vs ys ∧
          w = .collection kind ys := by
  rw [if_neg (by rw [not_isAny_of_scalarTag ht]; exact Bool.false_ne_true), bind_result_eq_ok]
  simp only [Prod.exists, ofReason_result_eq_ok, asSequence_eq_ok, bind_result_eq_ok,
    all_result_eq_ok, forall₂_placed, List.forall₂_map_left_iff, pure_result_eq_ok]
  constructor
  · rintro ⟨kind, vs, ⟨rfl, hk⟩, ys, hys, rfl⟩
    exact ⟨kind, vs, ys, rfl, hk, hys, rfl⟩
  · rintro ⟨kind, vs, ys, rfl, hk, hys, rfl⟩
    exact ⟨kind, vs, ⟨rfl, hk⟩, ys, hys, rfl⟩

/-- A collection of any other form is made of the conversions of all items, within limits. -/
theorem convert_items_eq_ok (ht : item.scalarTag?.isSome = true) :
    (do
      let items ← itemsFor form.kind v
      if form.kind = .list && item.holdsAnything then gatherAnything l items
      else gather form.kind l (items.map fun w => convert item [] w) : Converted Value).result = .ok w ↔
      ∃ kind vs ys, v = .collection kind vs ∧
        List.Forall₂ (fun v y => (convert item [] v).result = .ok y) vs ys ∧
          (form.isSet = true → ∀ y ∈ ys, y.canBeElement = true) ∧
          w = .collection form.kind (form.itemsOf ys) ∧ l.KeptBySize (form.itemsOf ys).length := by
  rw [holdsAnything_of_scalarTag item ht, Bool.and_false]
  simp only [bind_result_eq_ok, itemsFor_eq_ok, Bool.false_eq_true, if_false, gather_eq_ok,
    List.forall₂_map_left_iff]
  constructor
  · rintro ⟨vs, ⟨kind, rfl⟩, ys, hys⟩
    exact ⟨kind, vs, ys, rfl, hys⟩
  · rintro ⟨kind, vs, ys, rfl, hys⟩
    exact ⟨vs, ⟨kind, rfl⟩, ys, hys⟩

/-- A sequence checks no constraint itself. -/
theorem takeWhile_checks_sequence :
    cs.takeWhile (TypeExpr.collection .sequence item).checks = [] := by
  cases cs <;> rfl

/-- A collection of scalars is converted item by item, and an array of some form is made of the
    results, which has to keep to all constraints. -/
theorem convert_array_eq_ok (ht : item.scalarTag?.isSome = true) :
    (convert (.collection form item) cs v).result = .ok w ↔
      ∃ kind vs ys, v = .collection kind vs ∧ form.Takes kind ∧
        List.Forall₂ (fun v y => (convert item [] v).result = .ok y) vs ys ∧
          (form.isSet = true → ∀ y ∈ ys, y.canBeElement = true) ∧
          w = .collection (form.kindOf kind) (form.itemsOf ys) ∧
          (Limits.ofConstraints (cs.takeWhile (TypeExpr.collection form item).checks)).KeptBySize
            (form.itemsOf ys).length ∧
          Constraint.checkAll (TypeExpr.collection form item).schema
            (cs.dropWhile (TypeExpr.collection form item).checks) w = .ok w := by
  rw [convert, TypeExpr.within_result_eq_ok]
  constructor
  · rintro ⟨x, hx, hw⟩
    -- A collection has no text, so that no constraint changes it.
    have hkeep (kind : CollectionKind) (ys : List Value) (hx : x = .collection kind ys) : w = x := by
      subst hx
      exact Constraint.eq_of_checkAll_of_not_text toText_collection_ne_ok hw
    cases form with
    | sequence =>
      obtain ⟨kind, vs, ys, rfl, hk, hys, hx⟩ := (convert_sequence_eq_ok ht).1 hx
      obtain rfl := hkeep _ _ hx
      refine ⟨kind, vs, ys, rfl, fun _ => hk, hys, nofun, hx, ?_, hw⟩
      rw [takeWhile_checks_sequence]
      exact Limits.keptBySize_unlimited _
    | _ =>
      obtain ⟨kind, vs, ys, rfl, hys, helements, hx, hsize⟩ := (convert_items_eq_ok ht).1 hx
      obtain rfl := hkeep _ _ hx
      exact ⟨kind, vs, ys, rfl, nofun, hys, helements, hx, hsize, hw⟩
  · rintro ⟨kind, vs, ys, rfl, hk, hys, helements, hx, hsize, hw⟩
    refine ⟨w, ?_, hw⟩
    cases form with
    | sequence => exact (convert_sequence_eq_ok ht).2 ⟨kind, vs, ys, rfl, hk rfl, hys, hx⟩
    | _ => exact (convert_items_eq_ok ht).2 ⟨kind, vs, ys, rfl, hys, helements, hx, hsize⟩

end Convert

end TypedHeaders
