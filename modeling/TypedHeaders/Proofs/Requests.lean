import TypedHeaders.Proofs.Counters
import TypedHeaders.Proofs.Demos

/-!
# Runs of requests

Requests arrive one after the other, each under the policy of its time
(`Arrival`). The headers of a request to a demo handler are bound, or the request
fails for one of three reasons (`Service.observation_cases`). It is counted once,
whichever it is, and under the parameters that it binds (`Service.respond_demo`).

So that the counters account for a whole run (`Service.Accounts`): they show how
many requests were bound, how many failed for each reason, and how many header
parameters were bound, and there is nothing else to them.

* `Service.accounts_respondAll`: what one request preserves, over a run;
* `Service.respondAll_counts`: for runs from the start of the service, and for all
  other runs of observations.
-/

namespace TypedHeaders

/-- A request, and whether binding is lenient when it arrives. -/
structure Arrival where
  request : Request
  lenient : Bool := true

/-- How many header parameters the handler has that the request is for. -/
def Arrival.headerCount (a : Arrival) : Nat :=
  (a.request.demo?.map fun d => d.handler.boundPlaces.length).getD 0

/-- The labels of requests to demo handlers. -/
def requestLabels : List Label :=
  [⟨"ok", "ok"⟩, ⟨"fail", "missing"⟩, ⟨"fail", "cast"⟩, ⟨"fail", "validation"⟩]

/-- The reasons for which requests to demo handlers fail. -/
def failureReasons : List String := ["missing", "cast", "validation"]

/-- Of all labels, one is counted once more than before. -/
def Metrics.CountsOnce (before after : Metrics) (label : Label) : Prop :=
  ∀ l, after.count l = if l = label then (before.count l).addNat 1 else before.count l

namespace Service

variable {s : Service} {a : Arrival} {run : List Arrival}

/-! ## What comes of a request -/

/-- What comes of binding the headers of a request to a demo handler. -/
def outcome? (s : Service) (a : Arrival) : Option (Except BindError (Entries Value)) :=
  a.request.demo?.map fun d => (s.binder d).bind a.request.headers a.lenient

/-- Are the request's headers bound? -/
def binds (s : Service) (a : Arrival) : Bool := (s.outcome? a).any Except.isOk

/-- The reason for which the request fails. -/
def failureReason? (s : Service) (a : Arrival) : Option String :=
  match s.outcome? a with
  | some (.error (.failure f)) => f.kind.reason?
  | _ => none

/-- Does the request fail for that reason? -/
def failsFor (s : Service) (reason : String) (a : Arrival) : Bool :=
  s.failureReason? a = some reason

/-- What is counted of the request: the reason, and the header parameters that are bound. -/
def observation (s : Service) (a : Arrival) : String × Int :=
  if s.binds a then ("ok", a.headerCount) else ((s.failureReason? a).getD "other", 0)

theorem outcome?_eq {d : Demo} (hd : a.request.demo? = some d) :
    s.outcome? a = some ((s.binder d).bind a.request.headers a.lenient) := by
  rw [outcome?, hd, Option.map_some]

/-- The headers of a request to a demo handler are bound, or it fails for one of three reasons. -/
theorem observation_cases (hs : s.HasBinders) (ha : a.request.demo?.isSome) :
    (s.binds a = true ∧ (∀ reason, s.failsFor reason a = false) ∧
      s.observation a = ("ok", (a.headerCount : Int))) ∨
    ∃ reason ∈ failureReasons, s.binds a = false ∧
      (∀ reason', s.failsFor reason' a = decide (reason = reason')) ∧
      s.observation a = (reason, 0) := by
  obtain ⟨d, hd⟩ := Option.isSome_iff_exists.1 ha
  have hout := s.outcome?_eq hd
  cases hbind : (s.binder d).bind a.request.headers a.lenient with
  | ok arguments =>
    rw [hbind] at hout
    have hbinds : s.binds a = true := by rw [binds, hout]; rfl
    have hfails : s.failureReason? a = none := by rw [failureReason?, hout]
    exact .inl ⟨hbinds, fun reason => by simp [failsFor, hfails],
      by rw [observation, if_pos hbinds]⟩
  | error e =>
    obtain ⟨f, rfl, hf⟩ := Demo.bind_error (hs d) hbind
    rw [hbind] at hout
    have hbinds : s.binds a = false := by rw [binds, hout]; rfl
    -- Of the kinds of failures, those that blame a header each have a reason of their own.
    obtain ⟨reason, hreason, hmem⟩ : ∃ reason, f.kind.reason? = some reason ∧
        reason ∈ failureReasons := by
      rcases hf.kind with h | h | h <;> rw [h] <;> exact ⟨_, rfl, by decide⟩
    have hfails : s.failureReason? a = some reason := by
      rw [failureReason?, hout]
      exact hreason
    refine .inr ⟨reason, hmem, hbinds, fun reason' => by simp [failsFor, hfails], ?_⟩
    rw [observation, hbinds, hfails]
    rfl

/-- A request to a demo handler is counted once, and changes nothing else. -/
theorem respond_demo (hs : s.HasBinders) (henabled : s.settings.metricsEnabled = true)
    (ha : a.request.demo?.isSome) :
    (s.respond a.request a.lenient).1 =
      { s with metrics := (s.metrics.observe (s.observation a).1 (s.observation a).2).1 } := by
  obtain ⟨d, hd⟩ := Option.isSome_iff_exists.1 ha
  have hout := s.outcome?_eq hd
  rw [respond_of_demo hd]
  cases hbind : (s.binder d).bind a.request.headers a.lenient with
  | ok arguments =>
    have hobs : s.observation a = ("ok", ((s.binder d).set.size : Int)) := by
      rw [observation, binds, hout, hbind, Demo.size_of_binder (hs d), Arrival.headerCount, hd]
      rfl
    rw [answer_of_ok hbind, hobs]
    exact if_pos henabled
  | error e =>
    obtain ⟨f, rfl, -⟩ := Demo.bind_error (hs d) hbind
    have hobs : s.observation a = (f.kind.reason?.getD "other", 0) := by
      rw [observation, binds, failureReason?, hout, hbind]
      rfl
    -- A failure is counted before its answer is made, even if there is none.
    rw [answer_of_failure hbind, hobs]
    exact if_pos henabled

/-! ## Runs -/

/-- The service after a run of requests. -/
def respondAll (s : Service) (run : List Arrival) : Service :=
  run.foldl (fun s a => (s.respond a.request a.lenient).1) s

theorem respondAll_append (before after : List Arrival) :
    s.respondAll (before ++ after) = (s.respondAll before).respondAll after :=
  List.foldl_append

/-- A run of requests to demo handlers is a run of observations. -/
theorem respondAll_demo (hs : s.HasBinders) (henabled : s.settings.metricsEnabled = true)
    (hrun : ∀ a ∈ run, a.request.demo?.isSome) :
    s.respondAll run = { s with metrics := s.metrics.observeAll (run.map s.observation) } := by
  induction run generalizing s with
  | nil => rfl
  | cons a run ih =>
    rw [respondAll, List.foldl_cons, respond_demo hs henabled (hrun a (List.mem_cons_self ..))]
    -- What is observed of a request depends on the binders only, which stay the same.
    exact ih hs henabled fun a ha => hrun a (List.mem_cons_of_mem _ ha)

/-- The counters account for a run of requests: they show how many were bound, how many failed for
    each reason, and how many header parameters were bound in all; and every request is among
    them. -/
structure Accounts (s : Service) (run : List Arrival) (m : Metrics) : Prop where
  bound : (m.count ⟨"ok", "ok"⟩).Shows (List.replicate (run.countP s.binds) 1)
  failed : ∀ reason ∈ failureReasons,
    (m.count ⟨"fail", reason⟩).Shows
      (List.replicate (run.countP (s.failsFor reason)) 1)
  distinct : (m.bindings.map (·.1)).Nodup
  labels : ∀ l ∈ m.bindings.map (·.1), l ∈ requestLabels
  params : m.params.Shows ((run.filter s.binds).map Arrival.headerCount)
  conserved : run.length = run.countP s.binds +
    (failureReasons.map fun reason => run.countP (s.failsFor reason)).sum

/-- Every handler has header parameters, and few of them. -/
theorem headerCount_bounds (ha : a.request.demo?.isSome) :
    a.headerCount ≠ 0 ∧ a.headerCount ≤ 2 ^ 53 := by
  obtain ⟨d, hd⟩ := Option.isSome_iff_exists.1 ha
  have hcount : a.headerCount = d.handler.boundPlaces.length := by
    rw [Arrival.headerCount, hd]
    rfl
  have hlength : d.handler.boundPlaces.length ∈ [1, 2, 3] := by cases d <;> decide
  rw [hcount]
  simp only [List.mem_cons, List.not_mem_nil, or_false] at hlength
  omega

/-- The label that a request is counted under. -/
def label (s : Service) (a : Arrival) : Label := .ofReason (s.observation a).1

theorem label_eq {reason : String} {n : Int} (h : s.observation a = (reason, n)) :
    s.label a = .ofReason reason := by
  rw [label, h]

theorem label_mem (hs : s.HasBinders) (ha : a.request.demo?.isSome) :
    s.label a ∈ requestLabels := by
  obtain ⟨-, -, h⟩ | ⟨reason, hreason, -, -, h⟩ := observation_cases hs ha
  · rw [label_eq h]
    decide
  · rw [label_eq h]
    have : ∀ reason ∈ failureReasons, Label.ofReason reason ∈ requestLabels := by decide
    exact this reason hreason

theorem label_eq_ok_iff (hs : s.HasBinders) (ha : a.request.demo?.isSome) :
    s.label a = ⟨"ok", "ok"⟩ ↔ s.binds a = true := by
  obtain ⟨hbinds, -, h⟩ | ⟨reason, hreason, hbinds, -, h⟩ := observation_cases hs ha
  · rw [label_eq h, hbinds]
    decide
  · rw [label_eq h, hbinds]
    have : ∀ reason ∈ failureReasons, Label.ofReason reason ≠ ⟨"ok", "ok"⟩ := by decide
    exact ⟨fun h => (this reason hreason h).elim, nofun⟩

theorem label_eq_fail_iff (hs : s.HasBinders) (ha : a.request.demo?.isSome) {reason : String}
    (hreason : reason ∈ failureReasons) :
    s.label a = ⟨"fail", reason⟩ ↔ s.failsFor reason a = true := by
  obtain ⟨-, hfails, h⟩ | ⟨reason', hreason', -, hfails, h⟩ := observation_cases hs ha
  · rw [label_eq h, hfails reason]
    have : ∀ reason ∈ failureReasons, Label.ofReason "ok" ≠ ⟨"fail", reason⟩ := by decide
    exact ⟨fun h => (this reason hreason h).elim, nofun⟩
  · rw [label_eq h, hfails reason, decide_eq_true_iff]
    have : ∀ reason' ∈ failureReasons, Label.ofReason reason' = ⟨"fail", reason'⟩ := by decide
    rw [this reason' hreason', Label.mk.injEq]
    exact and_iff_right rfl

/-- The parameters of the requests that are bound are added up. -/
theorem params_observeAll (hs : s.HasBinders) (hrun : ∀ a ∈ run, a.request.demo?.isSome)
    {m : Metrics} {amounts : List Nat} (hm : m.params.Shows amounts) :
    (m.observeAll (run.map s.observation)).params.Shows
      (amounts ++ (run.filter s.binds).map Arrival.headerCount) := by
  induction run generalizing m amounts with
  | nil => exact (List.append_nil amounts).symm ▸ hm
  | cons a run ih =>
    have ha := hrun a (List.mem_cons_self ..)
    replace ih {m : Metrics} {amounts : List Nat} (hm : m.params.Shows amounts) :=
      ih (fun a ha => hrun a (List.mem_cons_of_mem _ ha)) hm
    rw [List.map_cons, Metrics.observeAll, List.foldl_cons]
    obtain ⟨hbinds, -, h⟩ | ⟨reason, -, hbinds, -, h⟩ := observation_cases hs ha
    · obtain ⟨hne, hle⟩ := headerCount_bounds ha
      have hstep := m.params_observe "ok" hle
      rw [if_neg hne] at hstep
      rw [h, List.filter_cons_of_pos hbinds, List.map_cons, List.append_cons]
      exact ih (hstep ▸ hm.add a.headerCount)
    · have hstep := m.params_observe reason (Nat.zero_le (2 ^ 53))
      rw [if_pos rfl] at hstep
      rw [h, List.filter_cons_of_neg (by simp [hbinds])]
      exact ih (hstep ▸ hm)

/-- Counting how often a label occurs is counting the requests that are counted under it. -/
theorem count_label {l : Label} {p : Arrival → Bool}
    (h : ∀ a ∈ run, s.label a = l ↔ p a = true) : (run.map s.label).count l = run.countP p := by
  rw [List.count, List.countP_map]
  exact List.countP_congr fun a ha => by simpa using h a ha

/-- Every request is bound, or fails for one reason. -/
theorem length_eq_countP (hs : s.HasBinders) (hrun : ∀ a ∈ run, a.request.demo?.isSome) :
    run.length = run.countP s.binds +
      (failureReasons.map fun reason => run.countP (s.failsFor reason)).sum := by
  induction run with
  | nil => rfl
  | cons a run ih =>
    have hlength := ih fun a ha => hrun a (List.mem_cons_of_mem _ ha)
    simp only [failureReasons, List.map_cons, List.map_nil, List.sum_cons, List.sum_nil,
      List.countP_cons, List.length_cons] at hlength ⊢
    obtain ⟨hbinds, hfails, -⟩ | ⟨reason, hreason, hbinds, hfails, -⟩ :=
      observation_cases hs (hrun a (List.mem_cons_self ..))
    · simp only [hbinds, hfails, if_true, Bool.false_eq_true, if_false]
      omega
    · -- One of the three counts grows, whichever reason it is.
      simp only [failureReasons, List.mem_cons, List.not_mem_nil, or_false] at hreason
      simp only [hbinds, hfails]
      rcases hreason with rfl | rfl | rfl <;> simp <;> omega

/-- Counters that start at zero account for a run of requests to demo handlers. -/
theorem accounts_respondAll (hs : s.HasBinders) (henabled : s.settings.metricsEnabled = true)
    (hzero : s.metrics = {}) (hrun : ∀ a ∈ run, a.request.demo?.isSome) :
    s.Accounts run (s.respondAll run).metrics := by
  have htally : (s.respondAll run).metrics.Tallies (run.map s.label) := by
    rw [respondAll_demo hs henabled hrun, hzero]
    have h := Metrics.tallies_nil.observeAll (run.map s.observation)
    rwa [List.nil_append, List.map_map] at h
  refine ⟨?_, fun reason hreason => ?_, htally.distinct, fun l hl => ?_, ?_,
    length_eq_countP hs hrun⟩
  · rw [← count_label fun a ha => label_eq_ok_iff hs (hrun a ha)]
    exact htally.count _
  · rw [← count_label fun a ha => label_eq_fail_iff hs (hrun a ha) hreason]
    exact htally.count _
  · obtain ⟨a, ha, rfl⟩ := List.mem_map.1 ((htally.mem_iff l).1 hl)
    exact label_mem hs (hrun a ha)
  · rw [respondAll_demo hs henabled hrun, hzero]
    exact params_observeAll (m := {}) hs hrun Numeral.Binary64.shows_nil

theorem countsOnce_respond (hs : s.HasBinders) (henabled : s.settings.metricsEnabled = true)
    (ha : a.request.demo?.isSome) :
    s.metrics.CountsOnce (s.respond a.request a.lenient).1.metrics (s.label a) := by
  intro l
  rw [respond_demo hs henabled ha]
  exact Metrics.count_observe

/-- A service that counts requests accounts for every run of requests to demo handlers, from its
    start on, and each of them is counted under one label. More generally, whatever reasons are
    observed, they are tallied under five labels, and the tallies are as many as the
    observations. -/
theorem respondAll_counts (settings : Settings) (henabled : settings.metricsEnabled = true)
    (run : List Arrival) (hrun : ∀ a ∈ run, a.request.demo?.isSome) :
    (∃ s, start settings = .ok s ∧
      s.Accounts run (s.respondAll run).metrics ∧
      ∀ before a after, run = before ++ a :: after → ∃ label ∈ requestLabels,
        (s.respondAll before).metrics.CountsOnce (s.respondAll (before ++ [a])).metrics label) ∧
    ∀ observations : List (String × Int), ∃ times : Label → Nat,
      let m := Metrics.observeAll {} observations
      (∀ l, (m.count l).Shows (List.replicate (times l) 1)) ∧
      (m.bindings.map (·.1)).Nodup ∧
      (∀ l ∈ m.bindings.map (·.1), l ∈ Metrics.allLabels) ∧
      (m.bindings.map fun sample => times sample.1).sum = observations.length := by
  obtain ⟨s, hstart, hsettings, hzero, hs⟩ := exists_start settings
  rw [← hsettings] at henabled
  refine ⟨⟨s, hstart, accounts_respondAll hs henabled hzero hrun, fun before a after hsplit => ?_⟩,
    fun observations => ?_⟩
  · subst hsplit
    have hbefore : ∀ a ∈ before, a.request.demo?.isSome := fun a ha =>
      hrun a (List.mem_append_left _ ha)
    have ha := hrun a (List.mem_append_right _ (List.mem_cons_self ..))
    rw [respondAll_append, respondAll_demo hs henabled hbefore]
    exact ⟨_, label_mem hs ha, countsOnce_respond hs henabled ha⟩
  · -- The tally starts empty, and each observation is one more in it.
    have htally := Metrics.tallies_nil.observeAll observations
    rw [List.nil_append] at htally
    refine ⟨_, htally.count, htally.distinct, fun l hl => ?_, ?_⟩
    · obtain ⟨o, -, rfl⟩ := List.mem_map.1 ((htally.mem_iff l).1 hl)
      exact Metrics.ofReason_mem_allLabels o.1
    · rw [htally.sum_count, List.length_map]

/-- A request that is bound, with three parameters, and one that misses a header. -/
theorem respondAll_counts_two :
    let run : List Arrival :=
      [⟨{ path := "/whoami", headers := ⟨[("x-request-id", "r-1")]⟩ }, true⟩,
       ⟨{ path := "/quota" }, false⟩]
    ∃ s, start {} = .ok s ∧
      (s.respondAll run).metrics.count ⟨"ok", "ok"⟩ = .ofInt 1 ∧
      (s.respondAll run).metrics.count ⟨"fail", "missing"⟩ = .ofInt 1 ∧
      (s.respondAll run).metrics.params = .ofInt 3 := by
  intro run
  obtain ⟨⟨s, hstart, hs, -⟩, -⟩ := respondAll_counts {} rfl run (by decide)
  have hrun : (start {}).toOption.map (fun s =>
      (run.countP s.binds, run.countP (s.failsFor "missing"),
        (run.filter s.binds).map Arrival.headerCount)) = some (1, 1, [3]) := by decide +kernel
  rw [hstart] at hrun
  simp only [Except.toOption, Option.map_some, Option.some.injEq, Prod.mk.injEq] at hrun
  obtain ⟨hbound, hfailed, hparams⟩ := hrun
  have hcount := hs.bound
  have hmissing := hs.failed "missing" (by decide)
  have hsum := hs.params
  rw [hbound] at hcount
  rw [hfailed] at hmissing
  rw [hparams] at hsum
  exact ⟨s, hstart, hcount.exact (by decide), hmissing.exact (by decide), hsum.exact (by decide)⟩

end Service

end TypedHeaders
