import TypedHeaders.Handler
import TypedHeaders.Document

/-!
# The demo handlers

Three handlers that show what headers can be bound to:

* `whoami` takes a request's identifier, and the user agent and the accepted
  languages if they are there;
* `quota` takes a client, described by a record of four headers, and a limit
  from 1 to 1000;
* `trace` takes the context of a trace if there is one, a record of three
  headers.

Each answers with an object that holds what it was given.
-/

namespace TypedHeaders

/-- A demo handler. -/
inductive Demo where
  | whoami
  | quota
  | trace
deriving DecidableEq, Repr

namespace Demo

/-- The tiers of clients. -/
def tier : Enumeration where
  name := "Tier"
  base := .text
  members :=
    [("FREE", .text "free"), ("PRO", .text "pro"), ("ENTERPRISE", .text "enterprise")]

/-- A text, or nothing. -/
def optionalText : TypeExpr := .optional (.plain .str)

/-- The headers that describe a client. -/
def clientHeaders : TypeExpr :=
  .record { kind := .model, name := "ClientHeaders" }
    [{ name := "x_client_id", type := .plain .str },
     { name := "x_client_tier", type := .enum tier },
     { name := "x_client_scopes", type := .collection .list (.plain .str) },
     { name := "x_client_region", type := optionalText, fallback := some .absent }]

/-- The headers that describe the context of a trace. -/
def traceHeaders : TypeExpr :=
  .record { kind := .model, name := "TraceHeaders" }
    [{ name := "x_trace_id", type := .plain .str },
     { name := "x_span_id", type := .plain .int },
     { name := "x_sampled", type := .optional (.plain .bool), fallback := some .absent }]

/-- A type that is bound from the header of that name, or of the parameter's if none is given. -/
def fromHeader (t : TypeExpr) (name : Option String) (more : List Note) : Option TypeExpr :=
  some (t.annotate (.marker { name := name } :: more))

/-- The limits of a rate. -/
def rateLimits : Note := .limits { ge := some (.int 1), le := some (.int 1000) }

/-- The signature of a demo handler. -/
def handler : Demo → Handler
  | whoami =>
    { name := "whoami"
      params :=
        [("request_id", fromHeader (.plain .str) (some "X-Request-ID") []),
         ("user_agent", fromHeader optionalText none []),
         ("accept_language",
          fromHeader (.optional (.collection .list (.plain .str))) none [])] }
  | quota =>
    { name := "quota"
      params :=
        [("client", fromHeader clientHeaders none []),
         ("limit", fromHeader (.plain .int) (some "X-Rate-Limit") [rateLimits])] }
  | trace =>
    { name := "trace"
      params := [("ctx", fromHeader (.optional traceHeaders) none [])] }

/-- The names under which a demo handler answers with its arguments. -/
def answerName : Demo → String → String
  | trace, "ctx" => "trace"
  | _, name => name

/-- What a demo handler answers. -/
def answer (d : Demo) (arguments : Entries Value) : Document :=
  .object (arguments.map fun (name, v) => (d.answerName name, .ofValue v))

end Demo

end TypedHeaders
