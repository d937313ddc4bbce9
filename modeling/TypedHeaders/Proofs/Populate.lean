import Mathlib
import TypedHeaders.BindingSet

/-!
# Populating a feed

Binding the parameters of a set into a feed is a fold from the left, of steps
that do not depend on each other. What a parameter comes to by itself is its
*outcome* (`Parameter.outcome`): what a set of it alone leaves in a feed of empty
slots. A feed is *filled* with some parameters (`Feed.Filled`) if the two slots
of each hold its outcome and its flag, and nothing else has changed.

* `populate_of_ok`: parameters that all have a value fill the feed;
* `populate_of_error`: the first parameter without a value ends the fold with its
  error, and the feed is filled with the parameters before it;
* `populate_fills`: both at once for a set whose parameters own slots of their
  own, and a feed that has all of them.
-/

namespace TypedHeaders

/-! ## Slots -/

namespace Parameter

/-- The slot belongs to the parameter: it is that of its value, or that of its flag. -/
def Owns (p : Parameter) (i : Nat) : Prop := i = p.slot ∨ i = p.slot + 1

/-- No slot belongs to both parameters. -/
def Apart (p q : Parameter) : Prop := ∀ i, p.Owns i → ¬q.Owns i

instance (p : Parameter) (i : Nat) : Decidable (p.Owns i) :=
  inferInstanceAs (Decidable (_ ∨ _))

/-- Parameters are apart if the slots of one end before those of the other. -/
theorem apart_iff {p q : Parameter} : p.Apart q ↔ p.slot + 1 < q.slot ∨ q.slot + 1 < p.slot := by
  constructor
  · intro h
    have h₀ := h p.slot (.inl rfl)
    have h₁ := h (p.slot + 1) (.inr rfl)
    simp only [Owns] at h₀ h₁
    omega
  · intro h i hp hq
    simp only [Owns] at hp hq
    omega

instance (p q : Parameter) : Decidable (p.Apart q) := decidable_of_iff _ apart_iff.symm

end Parameter

namespace BindingSet

/-- The fold that gives the length of the shortest feed only grows. -/
theorem le_foldl_slots (ps : List Parameter) (n : Nat) :
    n ≤ ps.foldl (fun n p => max n (p.slot + 2)) n := by
  induction ps generalizing n with
  | nil => exact Nat.le_refl n
  | cons p ps ih => exact Nat.le_trans (Nat.le_max_left n (p.slot + 2)) (ih _)

theorem slot_le_foldl {ps : List Parameter} {p : Parameter} (hp : p ∈ ps) (n : Nat) :
    p.slot + 2 ≤ ps.foldl (fun n p => max n (p.slot + 2)) n := by
  induction ps generalizing n with
  | nil => cases hp
  | cons q ps ih =>
    rcases List.mem_cons.1 hp with rfl | hp
    · exact Nat.le_trans (Nat.le_max_right n (p.slot + 2)) (le_foldl_slots ps _)
    · exact ih hp _

/-- The shortest feed has both slots of every parameter. -/
theorem slot_le_feedSize (s : BindingSet) {p : Parameter} (hp : p ∈ s.params) :
    p.slot + 2 ≤ s.feedSize := slot_le_foldl hp 0

theorem foldl_slots_le {ps : List Parameter} {size n : Nat} (hps : ∀ p ∈ ps, p.slot + 2 ≤ size)
    (hn : n ≤ size) : ps.foldl (fun n p => max n (p.slot + 2)) n ≤ size := by
  induction ps generalizing n with
  | nil => exact hn
  | cons p ps ih =>
    exact ih (fun q hq => hps q (List.mem_cons_of_mem p hq))
      (Nat.max_le.2 ⟨hn, hps p List.mem_cons_self⟩)

/-- No feed with both slots of every parameter is shorter than the shortest one. -/
theorem feedSize_le {s : BindingSet} {size : Nat} (hs : ∀ p ∈ s.params, p.slot + 2 ≤ size) :
    s.feedSize ≤ size := foldl_slots_le hs (Nat.zero_le size)

end BindingSet

/-! ## Storing a value -/

namespace Feed

variable {feed : Feed} {slot : Nat} {v : Value}

/-- A feed with the value and the flag of a parameter written into its slots. -/
def write (feed : Feed) (slot : Nat) (v : Value) : Feed :=
  (feed.set slot v).set (slot + 1) (.bool true)

theorem store_of_lt (hslot : slot + 1 < feed.length) :
    feed.store slot v = (feed.write slot v, none) := by
  rw [store, if_pos hslot, write]

@[simp] theorem length_write : (feed.write slot v).length = feed.length := by
  simp [write]

theorem write_value (hslot : slot + 1 < feed.length) : (feed.write slot v)[slot]? = some v := by
  rw [write, List.getElem?_set_ne (by omega), List.getElem?_set_self (by omega)]

theorem write_flag (hslot : slot + 1 < feed.length) :
    (feed.write slot v)[slot + 1]? = some (.bool true) := by
  rw [write, List.getElem?_set_self (by simpa using hslot)]

theorem write_frame {i : Nat} (hi : i ≠ slot) (hi' : i ≠ slot + 1) :
    (feed.write slot v)[i]? = feed[i]? := by
  rw [write, List.getElem?_set_ne hi'.symm, List.getElem?_set_ne hi.symm]

end Feed

/-! ## Steps and runs -/

namespace Feed

variable {h : Headers} {lenient : Bool} {p : Parameter} {ps qs : List Parameter} {feed new : Feed}

/-- A parameter that cannot be bound leaves the feed as it is. -/
theorem populate_cons_of_error {e : BindError} (hp : p.bind h lenient = .error e) :
    feed.populate h lenient (p :: ps) = (feed, some e) := by
  rw [populate, hp]

/-- A parameter that can be bound is written, and the others follow. -/
theorem populate_cons_of_ok {v : Value} (hp : p.bind h lenient = .ok v)
    (hslot : p.slot + 1 < feed.length) :
    feed.populate h lenient (p :: ps) = (feed.write p.slot v).populate h lenient ps := by
  simp only [populate, hp, store_of_lt hslot]

/-- Parameters that all have a value are bound into a feed that has their slots. -/
theorem exists_populate (hslots : ∀ p ∈ ps, p.slot + 1 < feed.length)
    (hps : ∀ p ∈ ps, ∃ v, p.bind h lenient = .ok v) :
    ∃ new, feed.populate h lenient ps = (new, none) := by
  induction ps generalizing feed with
  | nil => exact ⟨feed, rfl⟩
  | cons p ps ih =>
    obtain ⟨v, hv⟩ := hps p List.mem_cons_self
    rw [populate_cons_of_ok hv (hslots p List.mem_cons_self)]
    -- The rest runs on the feed into which `p` is written, which is as long.
    refine ih (fun q hq => ?_) fun q hq => hps q (List.mem_cons_of_mem p hq)
    rw [length_write]
    exact hslots q (List.mem_cons_of_mem p hq)

/-- Parameters that are bound leave the rest to those after them. -/
theorem populate_append {feed' : Feed} (hps : feed.populate h lenient ps = (feed', none)) :
    feed.populate h lenient (ps ++ qs) = feed'.populate h lenient qs := by
  induction ps generalizing feed with
  | nil => cases hps; rfl
  | cons p ps ih =>
    rw [List.cons_append, populate]
    rw [populate] at hps
    split at hps
    · cases hps
    · split at hps
      · exact ih hps
      · cases hps

/-- Where binding succeeds, the first parameter has a value and slots for it, and the others are
    bound into the feed with that value. -/
theorem of_populate_cons (hnew : feed.populate h lenient (p :: ps) = (new, none)) :
    ∃ v, p.bind h lenient = .ok v ∧ p.slot + 1 < feed.length ∧
      (feed.write p.slot v).populate h lenient ps = (new, none) := by
  rw [populate] at hnew
  cases hp : p.bind h lenient with
  | error e => rw [hp] at hnew; cases hnew
  | ok v =>
    simp only [hp] at hnew
    by_cases hslot : p.slot + 1 < feed.length
    · rw [store_of_lt hslot] at hnew
      exact ⟨v, rfl, hslot, hnew⟩
    · simp only [store, if_neg hslot] at hnew
      cases hnew

/-- Where binding succeeds, it does so for the last parameters in the feed that the first ones
    leave. -/
theorem of_populate_append (hnew : feed.populate h lenient (ps ++ qs) = (new, none)) :
    ∃ mid : Feed, mid.populate h lenient qs = (new, none) := by
  induction ps generalizing feed with
  | nil => exact ⟨feed, hnew⟩
  | cons p ps ih =>
    obtain ⟨v, -, -, hnew⟩ := of_populate_cons hnew
    exact ih hnew

/-- Where binding fails in a feed that has all slots, there is a first parameter that cannot be
    bound, and its error is the one reported. -/
theorem of_populate_error {e : BindError}
    (hslots : ∀ p ∈ ps, p.slot + 1 < feed.length)
    (hnew : feed.populate h lenient ps = (new, some e)) :
    ∃ before p after, ps = before ++ p :: after ∧
      (∀ q ∈ before, ∃ v, q.bind h lenient = .ok v) ∧ p.bind h lenient = .error e := by
  induction ps generalizing feed with
  | nil => cases hnew
  | cons p ps ih =>
    cases hp : p.bind h lenient with
    | error e' =>
      rw [populate_cons_of_error hp] at hnew
      cases hnew
      exact ⟨[], p, ps, rfl, fun q hq => (List.not_mem_nil hq).elim, hp⟩
    | ok v =>
      rw [populate_cons_of_ok hp (hslots p List.mem_cons_self)] at hnew
      have hslots' : ∀ q ∈ ps, q.slot + 1 < (feed.write p.slot v).length := fun q hq => by
        rw [length_write]
        exact hslots q (List.mem_cons_of_mem p hq)
      obtain ⟨before, q, after, rfl, hbefore, hq⟩ := ih hslots' hnew
      refine ⟨p :: before, q, after, rfl, fun r hr => ?_, hq⟩
      rcases List.mem_cons.1 hr with rfl | hr
      · exact ⟨v, hp⟩
      · exact hbefore r hr

/-- Binding leaves the feed as long as it is. -/
theorem length_of_populate (hnew : feed.populate h lenient ps = (new, none)) :
    new.length = feed.length := by
  induction ps generalizing feed with
  | nil => cases hnew; rfl
  | cons p ps ih =>
    obtain ⟨v, -, -, hnew⟩ := of_populate_cons hnew
    rw [ih hnew, length_write]

/-- Binding leaves the slots as they are that belong to no parameter. -/
theorem populate_frame {i : Nat} (hnew : feed.populate h lenient ps = (new, none))
    (hi : ∀ p ∈ ps, ¬p.Owns i) :
    new[i]? = feed[i]? := by
  induction ps generalizing feed with
  | nil => cases hnew; rfl
  | cons p ps ih =>
    obtain ⟨v, -, -, hnew⟩ := of_populate_cons hnew
    have hip : ¬p.Owns i := hi p List.mem_cons_self
    rw [ih hnew fun q hq => hi q (List.mem_cons_of_mem p hq)]
    exact write_frame (fun e => hip (.inl e)) (fun e => hip (.inr e))

/-- Where binding succeeds, the value of a parameter is in its slot, unless that belongs to a later
    one, too. -/
theorem value_of_populate (hqs : ∀ q ∈ qs, ¬q.Owns p.slot)
    (hnew : feed.populate h lenient (ps ++ p :: qs) = (new, none)) :
    ∃ v, p.bind h lenient = .ok v ∧ new[p.slot]? = some v := by
  obtain ⟨mid, hmid⟩ := of_populate_append hnew
  obtain ⟨v, hv, hslot, hrest⟩ := of_populate_cons hmid
  exact ⟨v, hv, (populate_frame hrest hqs).trans (write_value hslot)⟩

/-- Where binding succeeds, the flag of a parameter is in its slot, unless that belongs to a later
    one, too. -/
theorem flag_of_populate (hqs : ∀ q ∈ qs, ¬q.Owns (p.slot + 1))
    (hnew : feed.populate h lenient (ps ++ p :: qs) = (new, none)) :
    new[p.slot + 1]? = some (.bool true) := by
  obtain ⟨mid, hmid⟩ := of_populate_append hnew
  obtain ⟨v, -, hslot, hrest⟩ := of_populate_cons hmid
  exact (populate_frame hrest hqs).trans (write_flag hslot)

/-- Where binding succeeds, the slots of a parameter hold its value and its flag, unless they belong
    to a later one, too. -/
theorem slots_of_populate (hapart : ∀ q ∈ qs, p.Apart q)
    (hnew : feed.populate h lenient (ps ++ p :: qs) = (new, none)) :
    ∃ v, p.bind h lenient = .ok v ∧ new[p.slot]? = some v ∧
      new[p.slot + 1]? = some (.bool true) := by
  obtain ⟨v, hv, hvalue⟩ := value_of_populate (fun q hq => hapart q hq _ (.inl rfl)) hnew
  exact ⟨v, hv, hvalue, flag_of_populate (fun q hq => hapart q hq _ (.inr rfl)) hnew⟩

/-- Named arguments can be read from a feed that has all slots. -/
theorem exists_arguments (hslots : ∀ p ∈ ps, p.slot + 1 < feed.length) :
    ∃ entries, feed.arguments ps = .ok entries := by
  rw [arguments]
  generalize ([] : Entries Value) = before
  induction ps generalizing before with
  | nil => exact ⟨before, rfl⟩
  | cons p ps ih =>
    have hslot := hslots p List.mem_cons_self
    have hbefore : p.slot < feed.length := by omega
    have hvalue : feed.read p.slot = .ok feed[p.slot] := by
      rw [read, List.getElem?_eq_getElem hbefore]
    have hflag : feed.read (p.slot + 1) = .ok feed[p.slot + 1] := by
      rw [read, List.getElem?_eq_getElem hslot]
    obtain ⟨after, hafter⟩ : ∃ after : Entries Value, (do
        if (← feed.read (p.slot + 1)).holds then
          return Entries.put p.name (← feed.read p.slot) before
        else return before : Except BindError (Entries Value)) = .ok after := by
      rw [hvalue, hflag]
      by_cases hholds : feed[p.slot + 1].holds = true
      · exact ⟨_, if_pos hholds⟩
      · exact ⟨_, if_neg hholds⟩
    rw [List.foldlM_cons, hafter]
    exact ih (fun q hq => hslots q (List.mem_cons_of_mem p hq)) after

end Feed

/-! ## Outcomes -/

/-- What a parameter comes to by itself: the value that a set of it alone leaves in its slot of a
    feed that was empty, or the error with which binding that set ends. -/
def Parameter.outcome (p : Parameter) (h : Headers) (lenient : Bool) : Except BindError Value :=
  let alone : BindingSet := { params := [p] }
  match alone.populate h lenient (Feed.empty alone.feedSize) with
  | (feed, none) => feed.read p.slot
  | (_, some e) => .error e

/-- By itself, a parameter comes to what it is bound to. -/
theorem Parameter.outcome_eq_bind (p : Parameter) (h : Headers) (lenient : Bool) :
    p.outcome h lenient = p.bind h lenient := by
  have hslot : p.slot + 1 < (Feed.empty (BindingSet.feedSize { params := [p] })).length := by
    have := BindingSet.slot_le_feedSize { params := [p] } (List.mem_singleton_self p)
    rw [Feed.empty, List.length_replicate]
    omega
  simp only [outcome, BindingSet.populate]
  cases hp : p.bind h lenient with
  | error e => rw [Feed.populate_cons_of_error hp]
  | ok v =>
    rw [Feed.populate_cons_of_ok hp hslot]
    simp only [Feed.populate, Feed.read, Feed.write_value hslot]

/-! ## Filled feeds -/

namespace Feed

/-- The feed `new` is `old` filled with parameters: the slots of each hold its outcome and its
    flag, and no other slot has changed. -/
structure Filled (h : Headers) (lenient : Bool) (ps : List Parameter) (old new : Feed) : Prop where
  length_eq : new.length = old.length
  value : ∀ p ∈ ps, ∃ v, p.outcome h lenient = .ok v ∧ new[p.slot]? = some v
  flag : ∀ p ∈ ps, new[p.slot + 1]? = some (.bool true)
  frame : ∀ i, (∀ p ∈ ps, ¬p.Owns i) → new[i]? = old[i]?

variable {h : Headers} {lenient : Bool} {p : Parameter} {ps : List Parameter} {old new : Feed}

/-- Where binding succeeds, parameters in slots of their own fill the feed. -/
theorem Filled.of_populate (hapart : ps.Pairwise Parameter.Apart)
    (hnew : old.populate h lenient ps = (new, none)) : Filled h lenient ps old new := by
  have hslots : ∀ p ∈ ps, ∃ v, p.bind h lenient = .ok v ∧ new[p.slot]? = some v ∧
      new[p.slot + 1]? = some (.bool true) := fun p hp => by
    obtain ⟨before, after, rfl⟩ := List.append_of_mem hp
    have hafter := (List.pairwise_append.1 hapart).2.1
    exact slots_of_populate (List.pairwise_cons.1 hafter).1 hnew
  refine ⟨length_of_populate hnew, fun p hp => ?_, fun p hp => ?_, fun _ => populate_frame hnew⟩
  · obtain ⟨v, hv, hvalue, -⟩ := hslots p hp
    exact ⟨v, (p.outcome_eq_bind h lenient).trans hv, hvalue⟩
  · obtain ⟨v, -, -, hflag⟩ := hslots p hp
    exact hflag

/-- Parameters that all have a value, in slots of their own, fill the feed. -/
theorem populate_of_ok (hapart : ps.Pairwise Parameter.Apart)
    (hslots : ∀ p ∈ ps, p.slot + 1 < old.length)
    (hps : ∀ p ∈ ps, ∃ v, p.outcome h lenient = .ok v) :
    ∃ new, old.populate h lenient ps = (new, none) ∧ Filled h lenient ps old new := by
  obtain ⟨new, hnew⟩ := exists_populate hslots fun p hp => p.outcome_eq_bind h lenient ▸ hps p hp
  exact ⟨new, hnew, .of_populate hapart hnew⟩

/-- The first parameter without a value ends the binding with its error. Its slots, and those of
    the parameters after it, are left as they were. -/
theorem populate_of_error {rest : List Parameter} {e : BindError}
    (hapart : (ps ++ p :: rest).Pairwise Parameter.Apart)
    (hslots : ∀ q ∈ ps, q.slot + 1 < old.length)
    (hps : ∀ q ∈ ps, ∃ v, q.outcome h lenient = .ok v) (hp : p.outcome h lenient = .error e) :
    ∃ new, old.populate h lenient (ps ++ p :: rest) = (new, some e) ∧
      Filled h lenient ps old new ∧ ∀ q ∈ p :: rest, ∀ i, q.Owns i → new[i]? = old[i]? := by
  obtain ⟨hbefore, -, hacross⟩ := List.pairwise_append.1 hapart
  obtain ⟨new, hnew, hf⟩ := populate_of_ok hbefore hslots hps
  refine ⟨new, ?_, hf, fun q hq i hi => hf.frame i fun r hr hri => hacross r hr q hq i hri hi⟩
  rw [populate_append hnew, populate_cons_of_error (p.outcome_eq_bind h lenient ▸ hp)]

end Feed

namespace BindingSet

/-- Binding a set whose parameters own slots of their own, into a feed that has all of them, is a
    fold from the left of the outcomes of the parameters: if all of them are values, the feed is
    filled with all parameters; otherwise the first error is that of the set, the feed is filled
    with the parameters before it, and it still holds what it held in the slots of the others. -/
theorem populate_fills (s : BindingSet) (h : Headers) (lenient : Bool) (old : Feed)
    (hapart : s.params.Pairwise Parameter.Apart) (hsize : s.feedSize ≤ old.length) :
    ((∀ p ∈ s.params, ∃ v, p.outcome h lenient = .ok v) →
      ∃ new, s.populate h lenient old = (new, none) ∧ Feed.Filled h lenient s.params old new) ∧
    ∀ ps p rest e, s.params = ps ++ p :: rest →
      (∀ q ∈ ps, ∃ v, q.outcome h lenient = .ok v) → p.outcome h lenient = .error e →
      ∃ new, s.populate h lenient old = (new, some e) ∧ Feed.Filled h lenient ps old new ∧
        ∀ q ∈ p :: rest, ∀ i, q.Owns i → new[i]? = old[i]? := by
  have hslots : ∀ p ∈ s.params, p.slot + 1 < old.length := fun p hp => by
    have := slot_le_feedSize s hp
    omega
  refine ⟨Feed.populate_of_ok hapart hslots, fun ps p rest e hs hps hp => ?_⟩
  rw [hs] at hapart hslots
  rw [populate, hs]
  exact Feed.populate_of_error hapart
    (fun q hq => hslots q (List.mem_append_left _ hq)) hps hp

set_option maxRecDepth 20000 in
/-- A text is bound before an integer that cannot be cast, in a feed that was not empty. -/
theorem populate_fills_text_before_uncast :
    let text : Parameter := ⟨"a", "A", 2, .scalar .string, .plain .str, false, []⟩
    let count : Parameter := ⟨"b", "B", 0, .scalar .int, .plain .int, false, []⟩
    let h : Headers := ⟨[("b", "y"), ("a", "x")]⟩
    let old : Feed := [.int 7, .bool false, .int 8, .absent, .text "kept"]
    ∃ new, populate { params := [text, count] } h true old =
        (new, some (.uncast "B" (.invalidInt "y"))) ∧
      Feed.Filled h true [text] old new ∧ ∀ q ∈ [count], ∀ i, q.Owns i → new[i]? = old[i]? := by
  intro text count h old
  have htext : text.outcome h true = .ok (.text "x") := by
    subst text h
    rfl
  have hcount : count.outcome h true = .error (.uncast "B" (.invalidInt "y")) := by
    subst count h
    rfl
  exact (populate_fills { params := [text, count] } h true old (by decide) (by decide)).2
    [text] count [] _ rfl (fun q hq => ⟨_, List.mem_singleton.1 hq ▸ htext⟩) hcount

end BindingSet

end TypedHeaders
