import TypedHeaders.Cast
import TypedHeaders.Problem
import TypedHeaders.Text.Latin

/-!
# Failures

What can go wrong while a request's headers are bound. A *failure* is to be told
to the client: it is of a *kind*, blames a header, and may have a *cause*, such as
a text that cannot be cast or a value that is refused. Its *body* is what the
client gets.

* A header is *missing* if it is absent or empty where that is not permitted.
* A header is *uncast* if its text cannot be cast, or the cast value cannot be
  converted to the declared type.
* A header is *invalid* if its value breaks the limits beside the type.

Other errors are not the client's (`BindError`): a lookup key that is not Latin-1,
a feed that is too short, a constraint beside the type that does not fit the
value, and a fault of arithmetic.
-/

namespace TypedHeaders

/-! ## Causes -/

/-- The classes of errors that come from elsewhere. -/
inductive ForeignClass where
  | value
  | type
  | key
  | runtime
deriving DecidableEq, Repr

/-- The name of the class. -/
def ForeignClass.name : ForeignClass → String
  | .value => "ValueError"
  | .type => "TypeError"
  | .key => "KeyError"
  | .runtime => "RuntimeError"

/-- The class of that name. -/
def ForeignClass.ofName? (name : String) : Option ForeignClass :=
  [ForeignClass.value, .type, .key, .runtime].find? fun c => c.name = name

/-- An error from elsewhere, with what it was raised with. -/
structure ForeignError where
  type : ForeignClass
  arguments : List Atom
deriving DecidableEq, Repr

/-- The text of an error from elsewhere: its only argument, or all of them; a key is quoted. -/
def ForeignError.text (e : ForeignError) : String :=
  match e.arguments with
  | [] => ""
  | [a] => if e.type = .key then a.shown else a.plain
  | as => s!"({Text.commaList (as.map Atom.shown)})"

/-- Why a header could not be bound. -/
inductive Cause where
  | uncast (e : CastError)
  | refused (p : Problem)
  | misused (m : Misuse)
  | foreign (e : ForeignError)
deriving DecidableEq, Repr

/-- The cause on one line; an error without a text is named by its class. -/
def Cause.described : Cause → String
  | .uncast e => e.message
  | .refused p => p.described
  | .misused m => m.message
  | .foreign e => if e.text = "" then e.type.name else e.text

/-! ## Failures -/

/-- What went wrong with a header. -/
inductive FailureKind where
  /-- An error without a kind of its own. -/
  | general (message : String)
  /-- A failure to bind without a kind of its own. -/
  | binding (message : String)
  | missing
  | uncast
  | invalid
deriving DecidableEq, Repr

namespace FailureKind

/-- The code by which a client tells the kinds apart. -/
def code : FailureKind → String
  | general _ => "HEADER_ERROR"
  | binding _ | missing | uncast => "HEADER_BINDING_ERROR"
  | invalid => "HEADER_VALIDATION_ERROR"

/-- The reason under which a failure is counted. -/
def reason? : FailureKind → Option String
  | general _ | binding _ => none
  | missing => some "missing"
  | uncast => some "cast"
  | invalid => some "validation"

/-- What is said of the header `header`. -/
def message (header : String) : FailureKind → String
  | general message | binding message => message
  | missing => s!"no header value found for '{header}'"
  | uncast => s!"header binding failed for parameter: '{header}'"
  | invalid => s!"header validation failed for parameter: '{header}'"

end FailureKind

/-- A failure, to be told to the client. -/
structure Failure where
  kind : FailureKind
  /-- The header that is blamed, if any. -/
  header : Option String
  cause : Option Cause := none
deriving DecidableEq, Repr

namespace Failure

/-- The status code of the answer to a request that fails. -/
def status : Nat := 400

/-- What is said. A header that is not known is called `None`. -/
def message (f : Failure) : String := f.kind.message (f.header.getD "None")

/-- What the client gets: the code, the message, the header that is blamed, and the cause. -/
def body (f : Failure) : Entries String :=
  [("error", f.kind.code), ("message", f.message)] ++
    (f.header.map ("header", ·)).toList ++
    (f.cause.map fun c => ("cause", c.described)).toList

end Failure

/-! ## Errors of binding -/

/-- Why headers could not be bound. -/
inductive BindError where
  | failure (f : Failure)
  /-- A lookup key that is not Latin-1. -/
  | unencodable (u : Text.Unencodable)
  /-- A slot outside the feed was to be written. -/
  | noSlotToWrite
  /-- A slot outside the feed was to be read. -/
  | noSlotToRead
  /-- A constraint beside the type that does not fit the value. -/
  | misuse (m : Misuse)
  | arithmetic (f : Fault)
deriving DecidableEq, Repr

/-- What is said of headers that could not be bound. -/
def BindError.message : BindError → String
  | .failure f => f.message
  | .unencodable u => u.message
  | .noSlotToWrite => "list assignment index out of range"
  | .noSlotToRead => "list index out of range"
  | .misuse m => m.message
  | .arithmetic f => f.message

end TypedHeaders
