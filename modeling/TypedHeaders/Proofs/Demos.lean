import TypedHeaders.Proofs.Layout
import TypedHeaders.Service

/-!
# Binding the demo handlers

The parameters of the demo handlers can only fail: whatever the headers are, they
are bound, or one of them is blamed (`Demo.bind_error`). The service answers
accordingly, and has binders for all demo handlers from its start
(`Service.exists_start`).
-/

namespace TypedHeaders

namespace Demo

variable {d : Demo} {convert : Bool} {b : Binder} {h : Headers} {lenient : Bool}

/-- Every demo handler has a binding set, and its parameters can only fail. -/
theorem bindingSet_onlyFails (d : Demo) (convert : Bool) :
    ((d.handler.bindingSet convert).toOption.any fun s =>
      decide (∀ p ∈ s.params, p.OnlyFails)) = true := by
  cases d <;> cases convert <;> decide +kernel

theorem exists_binder (d : Demo) (convert : Bool) :
    ∃ b, Binder.ofHandler convert d.handler = .ok b := by
  have hset := bindingSet_onlyFails d convert
  cases hs : d.handler.bindingSet convert with
  | error e =>
    rw [hs] at hset
    cases hset
  | ok s => exact ⟨⟨d.handler, s⟩, bind_eq_ok.2 ⟨s, hs, rfl⟩⟩

/-- A binder of a demo handler is laid out by it, and can only fail. -/
theorem of_binder (hb : Binder.ofHandler convert d.handler = .ok b) :
    b.handler = d.handler ∧ b.set.IsLaidOut convert d.handler ∧ ∀ p ∈ b.set.params, p.OnlyFails := by
  obtain ⟨s, hs, hb⟩ := bind_eq_ok.1 hb
  obtain rfl : ⟨d.handler, s⟩ = b := Except.ok.inj hb
  have hset := bindingSet_onlyFails d convert
  rw [hs] at hset
  exact ⟨rfl, Handler.isLaidOut_of_bindingSet hs, of_decide_eq_true hset⟩

/-- The headers of a demo handler are bound, or else one of them is blamed. -/
theorem bind_error (hb : Binder.ofHandler convert d.handler = .ok b) {e : BindError}
    (he : b.bind h lenient = .error e) : ∃ f, e = .failure f ∧ f.IsCoherent := by
  obtain ⟨hhandler, hlaid, hfails⟩ := of_binder hb
  obtain ⟨f, rfl, p, -, hf⟩ := Binder.exists_fails_of_bind_error (hhandler ▸ hlaid) hfails he
  exact ⟨f, rfl, hf.isCoherent⟩

/-- There are as many bound parameters as bound places. -/
theorem size_of_binder (hb : Binder.ofHandler convert d.handler = .ok b) :
    b.set.size = d.handler.boundPlaces.length :=
  (of_binder hb).2.1.declared.length_eq.symm

end Demo

/-! ## Answers -/

namespace Request

/-- The demo handler that the request is for. -/
def demo? (r : Request) : Option Demo :=
  if r.method = "GET" then
    match Route.ofPath? r.path with
    | some (.demo d) => some d
    | _ => none
  else none

end Request

theorem Binder.call_nil (b : Binder) (h : Headers) (lenient : Bool) :
    b.call h lenient [] = b.bind h lenient := by
  rw [call]
  cases b.bind h lenient with
  | error e => rfl
  | ok arguments => exact congrArg Except.ok (List.append_nil arguments)

namespace Service

variable {s : Service} {d : Demo} {r : Request} {lenient : Bool}

/-- The service has the binders of all demo handlers. -/
def HasBinders (s : Service) : Prop :=
  ∀ d, Binder.ofHandler s.settings.convertUnderscores d.handler = .ok (s.binder d)

/-- The service starts under all settings: with all binders, and counters at zero. -/
theorem exists_start (settings : Settings) :
    ∃ s, start settings = .ok s ∧ s.settings = settings ∧ s.metrics = {} ∧ s.HasBinders := by
  obtain ⟨whoami, hwhoami⟩ := Demo.whoami.exists_binder settings.convertUnderscores
  obtain ⟨quota, hquota⟩ := Demo.quota.exists_binder settings.convertUnderscores
  obtain ⟨trace, htrace⟩ := Demo.trace.exists_binder settings.convertUnderscores
  refine ⟨⟨settings, whoami, quota, trace, {}⟩, ?_, rfl, rfl, fun d => ?_⟩
  · rw [start]
    simp only [hwhoami, hquota, htrace]
    rfl
  · cases d with
    | whoami => exact hwhoami
    | quota => exact hquota
    | trace => exact htrace

/-- A request for a demo handler gets its answer. -/
theorem respond_of_demo (hr : r.demo? = some d) :
    s.respond r lenient = s.answer d r lenient := by
  rw [Request.demo?] at hr
  split at hr
  · rename_i hmethod
    split at hr
    · rename_i hroute
      cases hr
      rw [respond, hroute]
      exact if_neg (not_not_intro hmethod)
    · cases hr
  · cases hr

theorem answer_of_ok {arguments : Entries Value}
    (hb : (s.binder d).bind r.headers lenient = .ok arguments) :
    s.answer d r lenient =
      (s.observe "ok" (s.binder d).set.size, .ok ⟨200, .document (d.answer arguments)⟩) := by
  simp only [answer, Binder.call_nil, hb]

theorem answer_of_failure {f : Failure}
    (hb : (s.binder d).bind r.headers lenient = .error (.failure f)) :
    s.answer d r lenient =
      (s.observe (f.kind.reason?.getD "other") 0,
        match r.addressError with
        | some problem => .error (.address problem)
        | none => .ok ⟨Failure.status, .document (.ofTexts f.body)⟩) := by
  simp only [answer, Binder.call_nil, hb]
  cases r.addressError <;> rfl

end Service

end TypedHeaders
