import TypedHeaders.Demo
import TypedHeaders.Metrics
import TypedHeaders.Settings

/-!
# The service

The demo handlers behind routes, and two routes more: one tells that the service
is up, the other shows the counters. Names of headers are compared in lower case
with names as they came, so that a name that came in upper case is never found.

A request to a demo handler is answered with what the handler answers, or with
the body of the failure to bind its headers; if requests are counted, it is
counted either way. Before a failure is answered, the request's address is looked
at; whether a request has one is decided elsewhere (`Request.addressError`). A
route answers only to its method; and a path that differs from a route's by
slashes at its end is sent there.
-/

namespace TypedHeaders

/-- A request as it arrives. -/
structure Request where
  method : String := "GET"
  path : String
  headers : Headers := {}
  /-- What is wrong with the address of the request, if it is not well-formed. -/
  addressError : Option String := none
deriving DecidableEq, Repr

/-- What a route leads to. -/
inductive Route where
  | demo (d : Demo)
  | health
  | metrics
deriving DecidableEq, Repr

/-- The body of an answer. -/
inductive Body where
  | empty
  | document (d : Document)
  /-- The counters, line by line. -/
  | lines (ls : List String)

/-- An answer. -/
structure Response where
  status : Nat
  body : Body

namespace Route

/-- The routes, by their paths. -/
def all : List (String × Route) :=
  [("/whoami", .demo .whoami), ("/quota", .demo .quota), ("/trace", .demo .trace),
   ("/__health", .health), ("/metrics", .metrics)]

/-- The route of a path, which a line feed may follow. -/
def ofPath? (path : String) : Option Route :=
  (all.find? fun r => path = r.1 || path = r.1 ++ "\n").map (·.2)

/-- The path without slashes at its end, or with one if there was none. -/
def otherPath (path : String) : String :=
  match path.toList.reverse with
  | '/' :: rest => String.ofList (rest.dropWhile (· = '/')).reverse
  | _ => path ++ "/"

end Route

/-! ## Answers -/

/-- Why a request has no answer. -/
inductive ServiceError where
  | bind (e : BindError)
  /-- Its address is not well-formed. -/
  | address (problem : String)
deriving DecidableEq, Repr

/-- What is said of a request without an answer. -/
def ServiceError.message : ServiceError → String
  | .bind e => e.message
  | .address problem => problem

/-- An answer that only says what is wrong with the request. -/
def Response.detail (status : Nat) (text : String) : Response :=
  ⟨status, .document (.ofTexts [("detail", text)])⟩

/-- The service: the binders of its handlers, made when it starts, and its counters. -/
structure Service where
  settings : Settings
  whoami : Binder
  quota : Binder
  trace : Binder
  metrics : Metrics := {}

namespace Service

/-- The service at its start. -/
def start (settings : Settings) : Except DeclarationError Service := do
  let binder (d : Demo) := Binder.ofHandler settings.convertUnderscores d.handler
  return {
    settings := settings
    whoami := ← binder .whoami
    quota := ← binder .quota
    trace := ← binder .trace }

/-- The binder of a demo handler. -/
def binder (s : Service) : Demo → Binder
  | .whoami => s.whoami
  | .quota => s.quota
  | .trace => s.trace

/-- The service with a request counted, if requests are counted. -/
def observe (s : Service) (reason : String) (params : Nat) : Service :=
  if s.settings.metricsEnabled then { s with metrics := (s.metrics.observe reason params).1 }
  else s

/-- The answer of a demo handler to a request. -/
def answer (s : Service) (d : Demo) (r : Request) (lenient : Bool) :
    Service × Except ServiceError Response :=
  let b := s.binder d
  match b.call r.headers lenient [] with
  | .ok arguments =>
    (s.observe "ok" b.set.size, .ok ⟨200, .document (d.answer arguments)⟩)
  | .error (.failure f) =>
    let s := s.observe (f.kind.reason?.getD "other") 0
    match r.addressError with
    | some problem => (s, .error (.address problem))
    | none => (s, .ok ⟨Failure.status, .document (.ofTexts f.body)⟩)
  | .error e => (s, .error (.bind e))

/-- The answer to a request. -/
def respond (s : Service) (r : Request) (lenient : Bool) :
    Service × Except ServiceError Response :=
  match Route.ofPath? r.path with
  | none =>
    if r.path ≠ "/" ∧ (Route.ofPath? (Route.otherPath r.path)).isSome then
      (s, .ok ⟨307, .empty⟩)
    else (s, .ok (.detail 404 "Not Found"))
  | some route =>
    if r.method ≠ "GET" then (s, .ok (.detail 405 "Method Not Allowed"))
    else
      match route with
      | .demo d => s.answer d r lenient
      | .health => (s, .ok ⟨200, .document (.ofTexts [("status", "ok")])⟩)
      | .metrics => (s, .ok ⟨200, .lines s.metrics.lines⟩)

end Service

end TypedHeaders
