import TypedHeaders.Catalogue
import TypedHeaders.Settings

/-!
# The command line

Two commands: `check` binds headers, given as lines, against the signature of a
handler, and `describe` lists what the handler's parameters are bound from.

Arguments are options or words. An option may be shortened as long as it can be
told from the others; its value follows it, after an equals sign or as the next
word, or at once if its name is a single letter. Arguments that start with a
hyphen but are negative numbers, or hold a space without being an option, are
words, and so is everything after a lone double hyphen. Every argument is
classified before the first one is acted on, so that a shortening that fits
several options is an error wherever it stands; apart from that the first
argument that is an error, or asks for help, decides.
-/

namespace TypedHeaders

namespace CommandLine

/-- The options. -/
inductive Flag where
  | help
  | header
  /-- Absent nilable headers are bound to nothing. -/
  | lenient
  /-- Absent nilable headers are missing. -/
  | strict
deriving DecidableEq, Repr

/-- The ways to write an option. -/
def Flag.names : Flag → List String
  | .help => ["-h", "--help"]
  | .header => ["-H", "--header"]
  | .lenient => ["--nilable-optional"]
  | .strict => ["--strict-nilable"]

/-- Does the option take a value? -/
def Flag.takesValue (f : Flag) : Bool := f = .header

/-- Why no command is run. -/
inductive Exit where
  /-- Help was asked for. -/
  | help
  /-- The arguments are in error. -/
  | usage
deriving DecidableEq, Repr

/-! ## Arguments -/

/-- What an argument is. -/
inductive Argument where
  | word (text : String)
  /-- An option by its name or a shortened one, with the value after an equals sign. -/
  | named (flag : Flag) (value : Option String)
  /-- An option by its letter, with what follows the letter at once. -/
  | letter (flag : Flag) (rest : String)
  /-- Something like an option that is none. -/
  | unknown
  /-- A lone double hyphen. -/
  | separator
deriving DecidableEq, Repr

/-- The option of exactly that name. -/
def flagNamed? (flags : List Flag) (name : String) : Option Flag :=
  flags.find? fun f => f.names.contains name

/-- The part of an argument before the first equals sign, and the part after it if there is one. -/
def splitValue (s : List Char) : List Char × Option String :=
  match s.span (· ≠ '=') with
  | (name, []) => (name, none)
  | (name, _ :: value) => (name, some (String.ofList value))

/-- Does a text start with another one? -/
def startsWith (start s : List Char) : Bool := s.take start.length = start

/-- The options that an argument may stand for when it is none exactly. -/
def candidates (flags : List Flag) (s : List Char) : List Argument :=
  match s with
  | '-' :: '-' :: _ =>
    let (start, value) := splitValue s
    flags.flatMap fun f =>
      (f.names.filter fun n => startsWith start n.toList).map fun _ => .named f value
  | '-' :: letter :: rest =>
    flags.flatMap fun f =>
      f.names.filterMap fun n =>
        if n.toList = ['-', letter] then some (.letter f (String.ofList rest))
        else if startsWith s n.toList then some (.named f none)
        else none
  | _ => []

/-- Is there nothing left but at most one line feed? -/
def atEnd (s : List Char) : Bool := s = [] || s = ['\n']

/-- Is the argument a negative number, with digits before the point or after it? One line feed
    may follow. -/
def isNegativeNumber : List Char → Bool
  | '-' :: rest =>
    match Numeral.spanDigits Text.digit? rest with
    | (_, '.' :: fraction) =>
      let (places, rest) := Numeral.spanDigits Text.digit? fraction
      !places.isEmpty && atEnd rest
    | (ds, rest) => !ds.isEmpty && atEnd rest
  | _ => false

/-- What an argument is, if the options are these. -/
def classify (flags : List Flag) (arg : String) : Except Exit Argument :=
  match arg.toList with
  | ['-', '-'] => .ok .separator
  | '-' :: c :: rest =>
    let s := '-' :: c :: rest
    match flagNamed? flags arg, splitValue s with
    | some f, _ => .ok (.named f none)
    | none, (name, value) =>
      match value, flagNamed? flags (String.ofList name) with
      | some value, some f =>
        -- What follows the letter of an option without a value are letters of options.
        if name.length = 2 && !f.takesValue && value ≠ "" then .ok (.letter f value)
        else .ok (.named f (some value))
      | _, _ =>
        match candidates flags s with
        | [a] => .ok a
        | [] => .ok (if isNegativeNumber s || s.contains ' ' then .word arg else .unknown)
        | _ => .error .usage
  | _ => .ok (.word arg)

/-- What arguments are; all after a separator are words. -/
def classifyAll (flags : List Flag) : List String → Except Exit (List Argument)
  | [] => .ok []
  | arg :: rest => do
    match ← classify flags arg with
    | .separator => return .separator :: rest.map .word
    | a => return a :: (← classifyAll flags rest)

/-! ## Options -/

/-- Options as they are used, one after the other. Only the last one may still need a value. -/
abbrev Uses := List (Flag × Option String)

/-- The options whose letters follow at once after the option `f`, and `f` itself. An option that
    takes a value has the rest of the letters for it; a letter that is no option is an error. -/
def cluster (flags : List Flag) (f : Flag) : List Char → Except Exit Uses
  | [] => .ok [(f, none)]
  | c :: rest =>
    if f.takesValue then .ok [(f, some (String.ofList (c :: rest)))]
    else
      match flagNamed? flags (String.ofList ['-', c]) with
      | none => .error .usage
      | some g => do return (f, none) :: (← cluster flags g rest)

/-- The options that an argument holds. -/
def uses (flags : List Flag) : Argument → Except Exit Uses
  | .named f none => .ok [(f, none)]
  | .named f (some v) => if f.takesValue then .ok [(f, some v)] else .error .usage
  | .letter f rest => cluster flags f rest.toList
  | .word _ | .unknown | .separator => .ok []

/-- Is the last of the options without the value that it takes? -/
def needsValue (us : Uses) : Bool :=
  match us.getLast? with
  | some (f, none) => f.takesValue
  | _ => false

/-- The options, the last one with that value. -/
def withValue (v : String) (us : Uses) : Uses :=
  us.dropLast ++ (us.getLast?.map fun u => (u.1, some v)).toList

/-! ## Commands -/

/-- The names of the commands. -/
inductive Verb where
  | check
  | describe
deriving DecidableEq, Repr

/-- The command of that name. -/
def Verb.ofName? : String → Option Verb
  | "check" => some .check
  | "describe" => some .describe
  | _ => none

/-- The options of a command. -/
def Verb.flags : Verb → List Flag
  | .check => [.help, .header, .lenient, .strict]
  | .describe => [.help]

/-- What the arguments of a command say. -/
structure Choices where
  handler : Option String := none
  lines : List String := []
  /-- May absent nilable headers be bound to nothing? -/
  policy : Option Bool := none
  /-- Is there an argument that has no meaning? -/
  surplus : Bool := false
deriving DecidableEq, Repr

namespace Choices

/-- Sets the policy, which may be set twice only if it is the same. -/
def setPolicy (c : Choices) (lenient : Bool) : Except Exit Choices :=
  if c.policy = some !lenient then .error .usage else .ok { c with policy := some lenient }

/-- Acts on one option. -/
def act (c : Choices) : Flag × Option String → Except Exit Choices
  | (.help, _) => .error .help
  | (.header, v) => .ok { c with lines := c.lines ++ v.toList }
  | (.lenient, _) => c.setPolicy true
  | (.strict, _) => c.setPolicy false

/-- Acts on all arguments of a command. -/
def ofArguments (flags : List Flag) (c : Choices) : List Argument → Except Exit Choices
  | [] => .ok c
  | .word s :: .separator :: rest =>
    if c.handler = none then ofArguments flags { c with handler := some s } rest
    else ofArguments flags { c with surplus := true } rest
  | .word s :: rest =>
    if c.handler = none then ofArguments flags { c with handler := some s } rest
    else ofArguments flags { c with surplus := true } rest
  | .separator :: rest =>
    ofArguments flags { c with surplus := c.surplus || c.handler.isSome } rest
  | .unknown :: rest => ofArguments flags { c with surplus := true } rest
  | a :: .word s :: rest => do
    let us ← uses flags a
    if needsValue us then ofArguments flags (← (withValue s us).foldlM act c) rest
    else ofArguments flags (← us.foldlM act c) (.word s :: rest)
  | a :: rest => do
    let us ← uses flags a
    if needsValue us then throw .usage
    else ofArguments flags (← us.foldlM act c) rest

end Choices

/-- A command to run. -/
structure Command where
  verb : Verb
  handler : String
  lines : List String := []
  policy : Option Bool := none
deriving DecidableEq, Repr

/-- The command of that name with its arguments; `surplus` tells whether there was an argument
    without a meaning before. -/
def Command.ofArguments (name : String) (args : List String) (surplus : Bool) :
    Except Exit Command :=
  match Verb.ofName? name with
  | none => .error .usage
  | some verb => do
    let c ← Choices.ofArguments verb.flags {} (← classifyAll verb.flags args)
    match c.handler with
    | none => throw .usage
    | some handler =>
      if surplus || c.surplus then throw .usage
      else return { verb := verb, handler := handler, lines := c.lines, policy := c.policy }

/-- The command that arguments ask for; `surplus` is as above. -/
def parseFrom (surplus : Bool) : List String → Except Exit Command
  | [] => .error .usage
  | arg :: rest => do
    match ← classify [.help] arg with
    | .word name => Command.ofArguments name rest surplus
    | .separator => throw .usage
    | .unknown => parseFrom true rest
    | a =>
      let us ← uses [.help] a
      if us.isEmpty then throw .usage else throw .help

/-- The command that arguments ask for. -/
def parse (args : List String) : Except Exit Command := parseFrom false args

/-! ## Running commands -/

/-- What a command ends with. -/
structure Outcome where
  code : Nat
  output : Document

/-- Why a command could not be run to its end. -/
inductive RunError where
  | load (e : LoadError)
  /-- The target names something that cannot be called, given as it is shown. -/
  | uncallable (shown : String)
  | declaration (e : DeclarationError)
  | bind (e : BindError)

/-- What is said of a command that could not be run to its end. -/
def RunError.message : RunError → String
  | .load e => e.message
  | .uncallable shown => s!"{shown} is not a callable object"
  | .declaration e => e.message
  | .bind e => e.message

/-- The binder of the handler that a target names. -/
def loadBinder (convert : Bool) (target : String) : Except RunError Binder := do
  let e ← (Catalogue.load target).mapError .load
  match e.handler? with
  | some h => (Binder.ofHandler convert h).mapError .declaration
  | none => throw (.uncallable e.shown)

/-- What is said of lines that do not give headers. A double hyphen is never the value of an
    option, so that a line of nothing else counts as an empty list. -/
def refusalOfLines : HeadersError → String
  | .malformed "--" => "malformed header line: []"
  | e => e.message

/-- Binds headers against the signature of a handler. -/
def check (convert lenient : Bool) (target : String) (lines : List String) :
    Except RunError Outcome := do
  let b ← loadBinder convert target
  match Headers.ofLines lines with
  | .error e =>
    return ⟨1, .ofTexts [("error", "INVALID_HEADERS"), ("message", refusalOfLines e)]⟩
  | .ok h =>
    match b.bind h lenient with
    | .ok bound =>
      return ⟨0, .object [("ok", .bool true), ("bound", .ofValue (.dict bound))]⟩
    | .error (.failure f) => return ⟨1, .ofTexts f.body⟩
    | .error e => throw (.bind e)

/-- The description of a field of a record. -/
def describeField (f : FieldDescriptor) : Document :=
  .object
    [("header", .text f.headerKey), ("type", .text f.tag.name), ("array", .bool f.isArray),
     ("nilable", .bool f.nilable)]

/-- The description of a parameter. -/
def describeParameter (p : Parameter) : Document :=
  .object <|
    [("name", .text p.name), ("header", .text p.header), ("feed_index", .int p.slot),
     ("kind", .text p.reading.kind.name), ("nilable", .bool p.nilable)] ++
    match p.reading with
    | .record r _ | .scalar _ (some r) | .array _ (some r) =>
      [("fields", .array (r.fields.map describeField))]
    | .scalar tag none | .array tag none => [("type", .text tag.name)]

/-- Lists what the parameters of a handler are bound from. -/
def describe (convert : Bool) (target : String) : Except RunError Outcome := do
  let b ← loadBinder convert target
  return ⟨0, .array (b.set.params.map describeParameter)⟩

/-- Runs a command. -/
def Command.run (c : Command) (s : Settings) (e : Environment) : Except RunError Outcome :=
  match c.verb with
  | .check => check s.convertUnderscores (c.policy.getD (s.policy e)) c.handler c.lines
  | .describe => describe s.convertUnderscores c.handler

end CommandLine

end TypedHeaders
