import TypedHeaders.Proofs.Populate
import TypedHeaders.Proofs.Declaration

/-!
# Feeds that are too short

The shortest feed that has all slots of a set is the shortest one into which the
set can be bound, whatever slots the parameters own, in whatever order.

Parameters may own the same slots here. A feed is *overwritten* with parameters
(`Feed.Overwritten`) if each slot holds what the last of its owners writes there,
and what it held before if it has none.

* `populate_overwrites`: parameters that can all be bound overwrite a feed that
  has their slots;
* `populate_of_outside`: the first parameter whose flag has no slot ends the
  binding. Its value is written all the same, as far as there is a slot for it;
* `populate_eq_none_iff`: both at once for a set, by the length of the feed.
-/

namespace TypedHeaders

/-! ## The first parameter outside -/

namespace BindingSet

/-- The shortest feed that has all slots is no longer than a feed that has all flags. -/
theorem feedSize_le_iff {s : BindingSet} {size : Nat} :
    s.feedSize ≤ size ↔ ∀ p ∈ s.params, p.slot + 1 < size := by
  constructor
  · intro hsize p hp
    have := s.slot_le_feedSize hp
    omega
  · exact fun hslots => feedSize_le fun p hp => hslots p hp

/-- A feed that is too short lacks the flag of a parameter, and of a first one. -/
theorem exists_first_outside {s : BindingSet} {size : Nat} (hsize : size < s.feedSize) :
    ∃ before p after, s.params = before ++ p :: after ∧
      (∀ q ∈ before, q.slot + 1 < size) ∧ size ≤ p.slot + 1 := by
  cases hfind : s.params.find? fun p => size ≤ p.slot + 1 with
  | none =>
    -- With the flags of all parameters inside, the feed would not be too short.
    refine absurd (feedSize_le_iff.2 fun p hp => ?_) (Nat.not_le_of_lt hsize)
    simpa using List.find?_eq_none.1 hfind p hp
  | some p =>
    obtain ⟨hp, before, after, hs, hbefore⟩ := List.find?_eq_some_iff_append.1 hfind
    exact ⟨before, p, after, hs, fun q hq => by simpa using hbefore q hq, by simpa using hp⟩

end BindingSet

/-! ## Overwritten feeds -/

namespace Feed

variable {h : Headers} {lenient : Bool} {p : Parameter} {ps : List Parameter} {old new : Feed}

/-- The feed `new` is `old` overwritten with parameters one after the other: the slots of each hold
    its value and its flag, unless a later one owns them, too, and no other slot has changed. -/
structure Overwritten (h : Headers) (lenient : Bool) (ps : List Parameter) (old new : Feed) :
    Prop where
  length_eq : new.length = old.length
  value : ∀ before p after, ps = before ++ p :: after → (∀ q ∈ after, ¬q.Owns p.slot) →
    ∃ v, p.bind h lenient = .ok v ∧ new[p.slot]? = some v
  flag : ∀ before p after, ps = before ++ p :: after → (∀ q ∈ after, ¬q.Owns (p.slot + 1)) →
    new[p.slot + 1]? = some (.bool true)
  frame : ∀ i, (∀ p ∈ ps, ¬p.Owns i) → new[i]? = old[i]?

/-- Where binding succeeds, the feed is overwritten. -/
theorem Overwritten.of_populate (hnew : old.populate h lenient ps = (new, none)) :
    Overwritten h lenient ps old new where
  length_eq := length_of_populate hnew
  value before p after hps hafter := by
    subst hps
    exact value_of_populate hafter hnew
  flag before p after hps hafter := by
    subst hps
    exact flag_of_populate hafter hnew
  frame _ hi := populate_frame hnew hi

/-- Parameters that can all be bound overwrite a feed that has their slots. -/
theorem populate_overwrites (hslots : ∀ p ∈ ps, p.slot + 1 < old.length)
    (hps : ∀ p ∈ ps, ∃ v, p.bind h lenient = .ok v) :
    ∃ new, old.populate h lenient ps = (new, none) ∧ Overwritten h lenient ps old new := by
  obtain ⟨new, hnew⟩ := exists_populate hslots hps
  exact ⟨new, hnew, .of_populate hnew⟩

/-- The feed `new` is what binding leaves of `old` where it ends at the parameter `p`, the first one
    whose flag has no slot: the parameters before it are written, then its value, as far as there is
    a slot for that, and no other slot has changed. -/
structure EndsAt (h : Headers) (lenient : Bool) (before : List Parameter) (p : Parameter)
    (old new : Feed) : Prop where
  inside : ∀ q ∈ before, q.slot + 1 < old.length
  outside : old.length ≤ p.slot + 1
  written : ∃ v mid, p.bind h lenient = .ok v ∧ Overwritten h lenient before old mid ∧
    new = mid.set p.slot v
  frame : ∀ i, (∀ q ∈ before, ¬q.Owns i) → i ≠ p.slot → new[i]? = old[i]?

theorem EndsAt.length_eq (hends : EndsAt h lenient ps p old new) : new.length = old.length := by
  obtain ⟨v, mid, -, hover, rfl⟩ := hends.written
  rw [List.length_set, hover.length_eq]

/-- The first parameter whose flag has no slot ends the binding. -/
theorem populate_of_outside {after : List Parameter} (hinside : ∀ q ∈ ps, q.slot + 1 < old.length)
    (hbinds : ∀ q ∈ ps ++ p :: after, ∃ v, q.bind h lenient = .ok v)
    (houtside : old.length ≤ p.slot + 1) :
    ∃ new, old.populate h lenient (ps ++ p :: after) = (new, some .noSlotToWrite) ∧
      EndsAt h lenient ps p old new := by
  obtain ⟨v, hv⟩ := hbinds p (List.mem_append_right ps List.mem_cons_self)
  obtain ⟨mid, hmid, hover⟩ :=
    populate_overwrites hinside fun q hq => hbinds q (List.mem_append_left _ hq)
  -- The parameters before `p` have left the feed as long as it was.
  have hstore : mid.store p.slot v = (mid.set p.slot v, some .noSlotToWrite) :=
    if_neg (by rw [hover.length_eq]; omega)
  refine ⟨mid.set p.slot v, ?_, hinside, houtside, ⟨v, mid, hv, hover, rfl⟩, fun i hi hip => ?_⟩
  · rw [populate_append hmid, populate, hv]
    simp only [hstore]
  · rw [List.getElem?_set_ne hip.symm, hover.frame i hi]

end Feed

/-! ## Slots that are given -/

namespace Parameter

/-- The parameter is made for a slot, from its parts or from a declaration. -/
inductive MadeAt (p : Parameter) : Int → Prop
  | ofParts {parts : ParameterParts} (hp : Parameter.ofParts parts = .ok p) : MadeAt p parts.slot
  | declare {convert : Bool} {name : String} {slot : Int} {declared : TypeExpr}
      {given : Option Marker} (hp : Parameter.declare convert name slot declared given = .ok p) :
      MadeAt p slot

/-- The slot of a parameter that parts make up is the one among the parts, which is not negative. -/
theorem slot_of_ofParts {parts : ParameterParts} {p : Parameter} (hp : ofParts parts = .ok p) :
    (p.slot : Int) = parts.slot := by
  obtain ⟨reading, -, hp⟩ := bind_eq_ok.1 hp
  obtain ⟨rfl, hslot, -⟩ := build_eq_ok.1 hp
  exact Int.toNat_of_nonneg hslot

/-- The slot of a parameter that a declaration describes is the one that is given with it, which is
    not negative. -/
theorem slot_of_declare {convert : Bool} {name : String} {slot : Int} {declared : TypeExpr}
    {given : Option Marker} {p : Parameter}
    (hp : declare convert name slot declared given = .ok p) : (p.slot : Int) = slot := by
  obtain ⟨hp, hslot, -⟩ := declare_eq_ok.1 hp
  rw [(of_ofType hp).1]
  exact Int.toNat_of_nonneg hslot

/-- A parameter has the slot for which it is made. That is never a negative one, which would count
    from the end. -/
theorem MadeAt.slot_eq {p : Parameter} {slot : Int} (hp : p.MadeAt slot) :
    (p.slot : Int) = slot := by
  cases hp with
  | ofParts hp => exact slot_of_ofParts hp
  | declare hp => exact slot_of_declare hp

end Parameter

/-! ## Sets -/

namespace BindingSet

/-- Where every parameter can be bound, a set is bound into a feed exactly if the feed is at least
    as long as the shortest one that has all slots of the set, and overwrites it. In a shorter feed,
    binding ends for want of a slot at the first parameter whose flag has none.

    The feed keeps its length either way, and what has changed is in the slots of parameters, which
    are those for which the parameters are made, counted from the start. -/
theorem populate_eq_none_iff (s : BindingSet) (h : Headers) (lenient : Bool) (old : Feed)
    (hbinds : ∀ p ∈ s.params, ∃ v, p.bind h lenient = .ok v) :
    ((s.populate h lenient old).2 = none ↔ s.feedSize ≤ old.length) ∧
    (s.feedSize ≤ old.length →
      Feed.Overwritten h lenient s.params old (s.populate h lenient old).1) ∧
    (old.length < s.feedSize →
      (s.populate h lenient old).2 = some .noSlotToWrite ∧
      ∃ before p after, s.params = before ++ p :: after ∧
        Feed.EndsAt h lenient before p old (s.populate h lenient old).1) ∧
    (s.populate h lenient old).1.length = old.length ∧
    (∀ i, (s.populate h lenient old).1[i]? ≠ old[i]? → ∃ p ∈ s.params, p.Owns i) ∧
    ∀ p ∈ s.params, ∀ slot, p.MadeAt slot → (p.slot : Int) = slot := by
  rcases Nat.lt_or_ge old.length s.feedSize with hshort | hlong
  · obtain ⟨before, p, after, hs, hinside, houtside⟩ := exists_first_outside hshort
    obtain ⟨new, hnew, hends⟩ :
        ∃ new, s.populate h lenient old = (new, some .noSlotToWrite) ∧
          Feed.EndsAt h lenient before p old new := by
      rw [populate, hs]
      exact Feed.populate_of_outside hinside (fun q hq => hbinds q (hs ▸ hq)) houtside
    rw [hnew]
    refine ⟨iff_of_false (by simp) (by omega), fun hlong => by omega,
      fun _ => ⟨rfl, before, p, after, hs, hends⟩, hends.length_eq, fun i hi => ?_,
      fun p _ slot hp => hp.slot_eq⟩
    -- A slot without an owner is none of those before `p`, and not that of its value.
    by_contra hno
    push Not at hno
    refine hi (hends.frame i (fun q hq => hno q ?_) fun hip => hno p ?_ (.inl hip))
    · exact hs ▸ List.mem_append_left _ hq
    · exact hs ▸ List.mem_append_right _ List.mem_cons_self
  · obtain ⟨new, hnew, hover⟩ :
        ∃ new, s.populate h lenient old = (new, none) ∧
          Feed.Overwritten h lenient s.params old new :=
      Feed.populate_overwrites (feedSize_le_iff.1 hlong) hbinds
    rw [hnew]
    refine ⟨iff_of_true rfl hlong, fun _ => hover, fun hshort => by omega, hover.length_eq,
      fun i hi => ?_, fun p _ slot hp => hp.slot_eq⟩
    by_contra hno
    push Not at hno
    exact hi (hover.frame i hno)

set_option maxRecDepth 20000 in
/-- Of three parameters, the second one owns the slot of the flag of the first one. If its own flag
    is beyond the end, its value is written there all the same, and of the third one nothing. -/
theorem populate_eq_none_iff_overlapping :
    let parameter (name : String) (slot : Nat) : Parameter :=
      ⟨name, name, slot, .scalar .string, .plain .str, false, []⟩
    let s : BindingSet := { params := [parameter "a" 1, parameter "b" 2, parameter "c" 0] }
    let h : Headers := ⟨[("a", "x"), ("b", "y"), ("c", "z")]⟩
    (∀ p ∈ s.params, ∃ v, p.bind h true = .ok v) ∧ s.feedSize = 4 ∧
    s.populate h true (Feed.empty 3) = ([.absent, .text "x", .text "y"], some .noSlotToWrite) ∧
    ¬s.feedSize ≤ (Feed.empty 3).length ∧ (s.populate h true (Feed.empty 4)).2 = none := by
  intro parameter s h
  have hbinds : ∀ p ∈ s.params, ∃ v, p.bind h true = .ok v := by
    simp only [s, List.forall_mem_cons]
    subst parameter h
    exact ⟨⟨.text "x", by rfl⟩, ⟨.text "y", by rfl⟩, ⟨.text "z", by rfl⟩,
      fun p hp => absurd hp List.not_mem_nil⟩
  have hshort : s.populate h true (Feed.empty 3) =
      ([.absent, .text "x", .text "y"], some .noSlotToWrite) := by cbv
  refine ⟨hbinds, by decide, hshort, fun hsize => ?_, ?_⟩
  · have := (populate_eq_none_iff s h true (Feed.empty 3) hbinds).1.2 hsize
    rw [hshort] at this
    cases this
  · exact (populate_eq_none_iff s h true (Feed.empty 4) hbinds).1.2 (by decide)

end BindingSet

end TypedHeaders
