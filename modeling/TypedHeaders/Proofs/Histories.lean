import TypedHeaders.Proofs.ShortFeeds
import TypedHeaders.Proofs.Tokens

/-!
# The history of a binding set

A binding set is made by calls and used by calls, which may come in any order
(`BindingSet.Call`). However many there are, the set is a log of the parameters that were
added before it was first frozen (`BindingSet.added`):

* a call adds its parameter at the end, or freezes the set, or leaves it as it is
  (`params_perform`, `frozen_perform`), and so does a run of calls (`params_performAll`,
  `frozen_performAll`);
* what the calls answer follows from the log (`BindingSet.IsLog`);
* the log is never changed but at its end, so that what was found once is found ever after,
  and the shortest feed never gets shorter (`BindingSet.IsKeptIn`).
-/

namespace TypedHeaders.BindingSet

/-! ## Calls -/

/-- What is done with a binding set. -/
inductive Call where
  | add (p : Parameter)
  | freeze
  /-- Finds the first parameter with a token. -/
  | get (token : String)
  /-- Binds all parameters into a feed. -/
  | populate (h : Headers) (lenient : Bool) (feed : Feed)
  /-- Binds all parameters, by name. -/
  | bind (h : Headers) (lenient : Bool)
  /-- Assembles the record of the parameter with a token. -/
  | assemble (token : String) (h : Headers) (lenient : Bool)
  /-- Takes the values of the parameters whose flags are set out of a feed. -/
  | arguments (feed : Feed)
  /-- Looks at the set. -/
  | inspect

/-- What a call comes to. -/
inductive Answer where
  | done
  | refused (e : BindingSetError)
  | found (p : Option Parameter)
  /-- The feed as it is then, with the error that ended the binding. -/
  | populated (feed : Feed) (e : Option BindError)
  | bound (result : Except BindError (Entries Value))
  | assembled (result : Except BindError (Option (Entries Value)))
  | seen (frozen isNotEmpty : Bool) (size feedSize : Nat) (params : List Parameter)

namespace Call

/-- The parameter that is to be added. -/
def parameter? : Call → Option Parameter
  | .add p => some p
  | _ => none

/-- Is the set to be frozen? -/
def freezes : Call → Bool
  | .freeze => true
  | _ => false

/-- Is the set only used, and neither added to nor frozen? -/
def isUse (call : Call) : Bool := call.parameter?.isNone && !call.freezes

theorem parameter?_of_freezes {call : Call} (hcall : call.freezes = true) :
    call.parameter? = none := by
  cases call with
  | freeze => rfl
  | _ => cases hcall

theorem of_isUse {call : Call} (hcall : call.isUse = true) :
    call.parameter? = none ∧ call.freezes = false := by
  simpa [isUse] using hcall

theorem freeze_mem_iff {calls : List Call} :
    Call.freeze ∈ calls ↔ calls.any Call.freezes = true := by
  rw [List.any_eq_true]
  constructor
  · exact fun hmem => ⟨.freeze, hmem, rfl⟩
  · rintro ⟨call, hmem, hcall⟩
    cases call with
    | freeze => exact hmem
    | _ => cases hcall

end Call

/-- The set after a call, and what the call comes to. -/
def perform (s : BindingSet) : Call → BindingSet × Answer
  | .add p =>
    match s.add p with
    | .ok t => (t, .done)
    | .error e => (s, .refused e)
  | .freeze => (s.freeze, .done)
  | .get token => (s, .found (s.get? token))
  | .populate h lenient feed =>
    let (feed, e) := s.populate h lenient feed
    (s, .populated feed e)
  | .bind h lenient => (s, .bound (s.bind h lenient))
  | .assemble token h lenient =>
    match s.findRecord token with
    | .ok (p, r) => (s, .assembled (r.assemble h p.nilable lenient))
    | .error e => (s, .refused e)
  | .arguments feed => (s, .bound (s.arguments feed))
  | .inspect => (s, .seen s.frozen s.isNotEmpty s.size s.feedSize s.params)

/-- The set after some calls. -/
def performAll (s : BindingSet) (calls : List Call) : BindingSet :=
  calls.foldl (fun s call => (s.perform call).1) s

/-- The parameters that are added before the set is first frozen, in order. -/
def added (calls : List Call) : List Parameter :=
  (calls.takeWhile fun call => !call.freezes).filterMap Call.parameter?

theorem added_cons (call : Call) (calls : List Call) :
    added (call :: calls) =
      if call.freezes then [] else call.parameter?.toList ++ added calls := by
  rw [added, List.takeWhile_cons]
  cases call.freezes with
  | true => rfl
  | false =>
    rw [Bool.not_false, if_pos rfl, if_neg Bool.false_ne_true, List.filterMap_cons, added]
    cases call.parameter? <;> rfl

variable {s t : BindingSet}

/-! ## What calls do to the set -/

/-- Only the two calls that are meant to do so change the set. -/
theorem perform_fst_of_isUse {call : Call} (hcall : call.isUse = true) :
    (s.perform call).1 = s := by
  cases call with
  | add p => cases hcall
  | freeze => cases hcall
  | assemble token h lenient =>
    rw [perform]
    cases s.findRecord token <;> rfl
  | _ => rfl

theorem frozen_perform (s : BindingSet) (call : Call) :
    (s.perform call).1.frozen = (s.frozen || call.freezes) := by
  cases hcall : call.isUse with
  | true =>
    rw [perform_fst_of_isUse hcall, (Call.of_isUse hcall).2, Bool.or_false]
  | false =>
    cases call with
    | add p =>
      rw [perform, add]
      cases hs : s.frozen <;> simp [hs, Call.freezes]
    | freeze => exact (Bool.or_true _).symm
    | _ => cases hcall

theorem params_perform (s : BindingSet) (call : Call) :
    (s.perform call).1.params =
      if s.frozen then s.params else s.params ++ call.parameter?.toList := by
  cases hcall : call.isUse with
  | true =>
    rw [perform_fst_of_isUse hcall, (Call.of_isUse hcall).1, Option.toList_none, List.append_nil,
      ite_self]
  | false =>
    cases call with
    | add p =>
      rw [perform, add]
      cases s.frozen <;> rfl
    | freeze => simp [perform, freeze, Call.parameter?]
    | _ => cases hcall

theorem frozen_performAll (s : BindingSet) (calls : List Call) :
    (s.performAll calls).frozen = (s.frozen || calls.any Call.freezes) := by
  induction calls generalizing s with
  | nil => exact (Bool.or_false _).symm
  | cons call calls ih =>
    rw [performAll, List.foldl_cons, ← performAll, ih, frozen_perform, List.any_cons, Bool.or_assoc]

/-- A set that is not frozen gets the parameters that are added, at its end. -/
theorem params_performAll (s : BindingSet) (calls : List Call) :
    (s.performAll calls).params = if s.frozen then s.params else s.params ++ added calls := by
  induction calls generalizing s with
  | nil => simp [performAll, added]
  | cons call calls ih =>
    rw [performAll, List.foldl_cons, ← performAll, ih, frozen_perform, params_perform, added_cons]
    cases s.frozen with
    | true => simp
    | false =>
      -- A freezing ends the log, and adds nothing itself; any other call leaves it open.
      cases hcall : call.freezes with
      | true => simp [Call.parameter?_of_freezes hcall]
      | false => simp

theorem performAll_append (s : BindingSet) (calls more : List Call) :
    s.performAll (calls ++ more) = (s.performAll calls).performAll more :=
  List.foldl_append

/-! ## The log -/

/-- The set is the log of a history: what it holds, and what the next call comes to, follows from
    the parameters that were added before it was first frozen. -/
structure IsLog (calls : List Call) (s : BindingSet) : Prop where
  params : s.params = added calls
  /-- An addition is accepted if there was no freezing before. -/
  accepts : .freeze ∉ calls → ∀ p,
    s.perform (.add p) = ({ s with params := s.params ++ [p] }, .done)
  /-- After a freezing, an addition is refused, and it changes nothing. -/
  refuses : .freeze ∈ calls → ∀ p, s.perform (.add p) = (s, .refused .frozen)
  /-- Nor does any use of the set change it, whatever that comes to. -/
  unchanged : ∀ call, call.isUse = true → (s.perform call).1 = s
  /-- The shortest feed is just long enough for all flags. -/
  feedSize_le_iff : ∀ size, s.feedSize ≤ size ↔ ∀ p ∈ added calls, p.slot + 1 < size
  /-- What is found is the parameter with the token that was added first. -/
  finds : ∀ token p, (s.perform (.get token)).2 = .found (some p) ↔
    ∃ before after, added calls = before ++ p :: after ∧ p.header = token ∧
      ∀ q ∈ before, q.header ≠ token
  /-- Nothing is found if no parameter with the token was added, and only then. -/
  finds_none : ∀ token, (s.perform (.get token)).2 = .found none ↔
    ∀ p ∈ added calls, p.header ≠ token
  /-- What is seen of the set is the log. -/
  seen : (s.perform .inspect).2 = .seen (calls.any Call.freezes) (!(added calls).isEmpty)
    (added calls).length s.feedSize (added calls)

/-- What holds of a set later on: the log is as it was, but for what was added at its end. -/
structure IsKeptIn (s t : BindingSet) : Prop where
  params : s.params <+: t.params
  feedSize_le : s.feedSize ≤ t.feedSize
  /-- What was found is still found. -/
  finds : ∀ token p, (s.perform (.get token)).2 = .found (some p) →
    (t.perform (.get token)).2 = .found (some p)

theorem found_iff {token : String} {p : Option Parameter} :
    (s.perform (.get token)).2 = .found p ↔ s.get? token = p :=
  ⟨Answer.found.inj, congrArg Answer.found⟩

/-- A set is kept in every set with more parameters at the end. -/
theorem isKeptIn_of_prefix (hst : s.params <+: t.params) : s.IsKeptIn t where
  params := hst
  feedSize_le := BindingSet.feedSize_le_iff.2 fun p hp =>
    BindingSet.feedSize_le_iff.1 (Nat.le_refl t.feedSize) p (hst.subset hp)
  finds _ _ hp := found_iff.2 (hst.find?_eq_some (found_iff.1 hp))

theorem isLog_performAll (calls : List Call) : (performAll {} calls).IsLog calls := by
  have hparams : (performAll {} calls).params = added calls := params_performAll {} calls
  have hfrozen : (performAll {} calls).frozen = calls.any Call.freezes :=
    (frozen_performAll {} calls).trans (Bool.false_or _)
  generalize performAll {} calls = s at hparams hfrozen
  refine ⟨hparams, fun hno p => ?_, fun hmem p => ?_, fun _ => perform_fst_of_isUse, fun size => ?_,
    fun token p => ?_, fun token => ?_, ?_⟩
  · rw [Call.freeze_mem_iff, ← hfrozen] at hno
    rw [perform, add, if_neg hno]
  · rw [Call.freeze_mem_iff, ← hfrozen] at hmem
    rw [perform, add, if_pos hmem]
  · rw [BindingSet.feedSize_le_iff, hparams]
  · rw [found_iff, get?_eq_some_iff, hparams]
  · rw [found_iff, get?_eq_none_iff, hparams]
  · rw [perform, hfrozen, isNotEmpty, size, hparams]

/-- A binding set is a log that is only appended to until it is frozen: after any calls it holds the
    parameters that were added before the first freezing, and answers accordingly, and whatever calls
    come then, it keeps them. -/
theorem performAll_appends_until_frozen (calls more : List Call) :
    (performAll {} calls).IsLog calls ∧
      (performAll {} calls).IsKeptIn (performAll {} (calls ++ more)) := by
  refine ⟨isLog_performAll calls, isKeptIn_of_prefix ?_⟩
  rw [performAll_append, params_performAll (performAll {} calls)]
  split
  · exact List.prefix_rfl
  · exact List.prefix_append _ _

/-- Two parameters have the same token, and the set is frozen between the additions of others. -/
theorem performAll_appends_until_frozen_duplicate :
    let parameter (name token : String) (slot : Nat) : Parameter :=
      ⟨name, token, slot, .scalar .string, .plain .str, false, []⟩
    let calls : List Call :=
      [.add (parameter "a" "x-id" 2), .populate ⟨[]⟩ true [], .add (parameter "b" "x-id" 0),
        .freeze, .add (parameter "c" "x-late" 6)]
    let s := performAll {} calls
    let t := performAll {} (calls ++ [.freeze, .add (parameter "d" "x-id" 8), .inspect])
    s.params = [parameter "a" "x-id" 2, parameter "b" "x-id" 0] ∧
      s.perform (.add (parameter "c" "x-late" 6)) = (s, .refused .frozen) ∧
      (s.perform (.get "x-late")).2 = .found none ∧
      (t.perform (.get "x-id")).2 = .found (some (parameter "a" "x-id" 2)) := by
  intro parameter calls s t
  obtain ⟨hlog, hkept⟩ := performAll_appends_until_frozen calls
    [.freeze, .add (parameter "d" "x-id" 8), .inspect]
  refine ⟨hlog.params, hlog.refuses (by simp [calls]) _, (hlog.finds_none _).2 (by decide),
    hkept.finds _ _ ((hlog.finds _ _).2 ⟨[], [parameter "b" "x-id" 0], rfl, rfl, ?_⟩)⟩
  exact fun q hq => absurd hq List.not_mem_nil

end TypedHeaders.BindingSet
