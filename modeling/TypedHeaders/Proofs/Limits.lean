import TypedHeaders.Proofs.ArrayConversion

/-!
# Limits that are kept

Where constraints are put together as limits, a later one takes the place of an
earlier one that says the same: only the *standing* ones count
(`Constraint.standing`), and all of those do (`Limits.add_of_mem_standing`).
Constraints that are checked one by one all count (`Constraint.check_of_mem`).

An array keeps to all that count of the constraints on its size
(`sizeKeepsTo_of_convert`). They are about the number of items that it has in the end,
which for a set may be fewer than were given.
-/

namespace TypedHeaders

/-! ## Standing constraints -/

namespace Constraint

/-- The constraints of a list of which no later one takes the place. -/
def standing : List Constraint → List Constraint
  | [] => []
  | c :: cs => if cs.any fun d => d.name = c.name then standing cs else c :: standing cs

variable {c d : Constraint} {cs : List Constraint} {schema : String} {v w : Value}

theorem mem_of_mem_standing (hc : c ∈ standing cs) : c ∈ cs := by
  induction cs with
  | nil => cases hc
  | cons d cs ih =>
    rw [standing] at hc
    split at hc
    · exact List.mem_cons_of_mem d (ih hc)
    · rcases List.mem_cons.1 hc with rfl | hc
      · exact List.mem_cons_self
      · exact List.mem_cons_of_mem d (ih hc)

/-- Each of the constraints holds of a value that none of them reshapes. -/
theorem check_of_mem (hv : ∀ s, (Scalar.toText v).result ≠ .ok s)
    (hw : checkAll schema cs v = .ok w) (hc : c ∈ cs) : ∃ schema', c.check schema' v = .ok v := by
  induction cs generalizing schema with
  | nil => cases hc
  | cons d cs ih =>
    obtain ⟨x, hx, hrest⟩ := checkAll_cons.1 hw
    -- Only texts are reshaped, so that the constraints after `d` are checked on the same value.
    have hd : d.isReshaping = false := by
      cases d with
      | reshape r =>
        obtain ⟨s, hs, -⟩ := check_reshape hx
        exact absurd hs (hv s)
      | _ => rfl
    obtain rfl := eq_of_check hd hx
    rcases List.mem_cons.1 hc with rfl | hc
    · exact ⟨schema, hx⟩
    · exact ih hrest hc

end Constraint

namespace Limits

open Constraint

variable {l : Limits} {c d : Constraint} {cs : List Constraint}

theorem add_add_self (l : Limits) (hc : c.isReshaping = false) : (l.add c).add c = l.add c := by
  cases c with
  | reshape r => cases hc
  | _ => rfl

/-- Constraints that say different things may be added in any order. -/
theorem add_comm_of_name_ne (l : Limits) (hc : c.isReshaping = false) (hne : d.name ≠ c.name) :
    (l.add d).add c = (l.add c).add d := by
  cases c <;> cases d <;> first | rfl | exact absurd rfl hne | cases hc

/-- Limits that say what a constraint says still do when others are added. -/
theorem add_foldl_of_add (hc : c.isReshaping = false) (hl : l.add c = l)
    (hcs : ∀ d ∈ cs, d.name ≠ c.name) : (cs.foldl add l).add c = cs.foldl add l := by
  induction cs generalizing l with
  | nil => exact hl
  | cons d cs ih =>
    refine ih ?_ fun e he => hcs e (List.mem_cons_of_mem d he)
    rw [add_comm_of_name_ne l hc (hcs d List.mem_cons_self), hl]

theorem add_foldl_of_mem_standing (l : Limits) (hc : c.isReshaping = false) (hmem : c ∈ standing cs) :
    (cs.foldl add l).add c = cs.foldl add l := by
  induction cs generalizing l with
  | nil => cases hmem
  | cons d cs ih =>
    rw [standing] at hmem
    split at hmem
    · exact ih _ hmem
    · -- Nothing that comes after a standing constraint says the same.
      rename_i hlast
      rcases List.mem_cons.1 hmem with rfl | hmem
      · refine add_foldl_of_add (l := l.add c) hc (add_add_self l hc) fun e he hname => hlast ?_
        exact List.any_eq_true.2 ⟨e, he, decide_eq_true hname⟩
      · exact ih _ hmem

/-- Constraints that are put together say what each standing one says. -/
theorem add_of_mem_standing (hc : c.isReshaping = false) (hmem : c ∈ standing cs) :
    (ofConstraints cs).add c = ofConstraints cs := add_foldl_of_mem_standing {} hc hmem

end Limits

/-! ## Sizes -/

/-- A collection of that many items keeps to the constraint, if it is one on the size. -/
def Constraint.KeptBySize (c : Constraint) (size : Nat) : Prop :=
  match c with
  | .minLength n => n ≤ size
  | .maxLength n => size ≤ n
  | _ => True

/-- A size within limits keeps to what the limits say. -/
theorem Limits.KeptBySize.constraint {l : Limits} {size : Nat} (hsize : l.KeptBySize size)
    {c : Constraint} (hc : l.add c = l) : c.KeptBySize size := by
  cases c with
  | minLength n => exact hsize.min n (congrArg Limits.minLength hc).symm
  | maxLength n => exact hsize.max n (congrArg Limits.maxLength hc).symm
  | _ => trivial

theorem Constraint.keptBySize_of_check {c : Constraint} {schema : String} {kind : CollectionKind}
    {items : List Value} {w : Value} (hw : c.check schema (.collection kind items) = .ok w) :
    c.KeptBySize items.length := by
  have hsize {holds : Nat → Bool} {reason : Nat → Reason}
      (hw : c.checkSize holds reason (.collection kind items) = .ok w) :
      holds items.length = true := by
    rw [checkSize] at hw
    change (if holds items.length then _ else _) = _ at hw
    split at hw
    · assumption
    · cases hw
  cases c with
  | minLength n =>
    rw [check] at hw
    exact of_decide_eq_true (p := n ≤ items.length) (hsize hw)
  | maxLength n =>
    rw [check] at hw
    exact of_decide_eq_true (p := items.length ≤ n) (hsize hw)
  | _ => trivial

/-! ## Arrays -/

/-- The constraints on the size that count for a type hold of it: the standing ones of those that
    the type checks itself, and all others. -/
structure TypeExpr.SizeKeepsTo (t : TypeExpr) (cs : List Constraint) (size : Nat) : Prop where
  own : ∀ c ∈ Constraint.standing (cs.takeWhile t.checks), c.KeptBySize size
  rest : ∀ c ∈ cs.dropWhile t.checks, c.KeptBySize size

/-- A type of arrays reshapes nothing. -/
theorem TypeExpr.not_isReshaping_of_checks {form : CollectionForm} {item : TypeExpr} {c : Constraint}
    (hc : (TypeExpr.collection form item).checks c = true) : c.isReshaping = false := by
  cases c with
  | reshape r => simp [checks, Constraint.isLength] at hc
  | _ => rfl

/-- The conversion to an array of scalars keeps to the constraints on the size. -/
theorem sizeKeepsTo_of_convert {form : CollectionForm} {item : TypeExpr} {cs : List Constraint}
    {v w : Value} (ht : item.scalarTag?.isSome = true)
    (hw : (convert (.collection form item) cs v).result = .ok w) :
    ∃ kind items, w = .collection kind items ∧
      (TypeExpr.collection form item).SizeKeepsTo cs items.length := by
  obtain ⟨kind, -, ys, -, -, -, -, rfl, hsize, hrest⟩ := (convert_array_eq_ok ht).1 hw
  refine ⟨form.kindOf kind, form.itemsOf ys, rfl, fun c hc => ?_, fun c hc => ?_⟩
  · have hchecks := List.mem_takeWhile_imp (Constraint.mem_of_mem_standing hc)
    exact hsize.constraint
      (Limits.add_of_mem_standing (TypeExpr.not_isReshaping_of_checks hchecks) hc)
  · obtain ⟨schema, hcheck⟩ := Constraint.check_of_mem toText_collection_ne_ok hrest hc
    exact Constraint.keptBySize_of_check hcheck

end TypedHeaders
