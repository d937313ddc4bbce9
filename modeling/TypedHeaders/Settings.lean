import TypedHeaders.Text.Casing

/-!
# Settings

What the environment decides. Four variables are read; three of them are
switches, which are on if their text is `true` in any mixture of cases, and on
as well if there is no variable. The settings are read once, when the program
starts. Only the policy for absent nilable headers is read again for every
request: a variable that is there by then wins over what was read at the start
(`Settings.policy`).
-/

namespace TypedHeaders

/-- The texts of the variables that are read. -/
structure Environment where
  treatNilableAsOptional : Option String := none
  convertUnderscores : Option String := none
  logLevel : Option String := none
  metricsEnabled : Option String := none
deriving DecidableEq, Repr

/-- The environment with the variable of that name set, or removed; others are not read. -/
def Environment.set (e : Environment) (name : String) (value : Option String) : Environment :=
  match name with
  | "HDRBIND_TREAT_NILABLE_AS_OPTIONAL" => { e with treatNilableAsOptional := value }
  | "HDRBIND_CONVERT_UNDERSCORES" => { e with convertUnderscores := value }
  | "HDRBIND_LOG_LEVEL" => { e with logLevel := value }
  | "HDRBIND_METRICS_ENABLED" => { e with metricsEnabled := value }
  | _ => e

/-- The environment with some variables set or removed, one after the other. -/
def Environment.setAll (e : Environment) (changes : List (String × Option String)) :
    Environment :=
  changes.foldl (fun e (name, value) => e.set name value) e

/-- Is a switch with that text on? -/
def isOn (text : String) : Bool := Text.lower text = "true"

/-- What is read when the program starts. -/
structure Settings where
  /-- May an absent nilable header be bound to nothing? -/
  treatNilableAsOptional : Bool := true
  /-- Do derived header names have hyphens for underscores? -/
  convertUnderscores : Bool := true
  logLevel : String := "INFO"
  /-- Are requests counted? -/
  metricsEnabled : Bool := true
deriving DecidableEq, Repr

namespace Settings

/-- The settings that an environment gives. -/
def ofEnvironment (e : Environment) : Settings where
  treatNilableAsOptional := (e.treatNilableAsOptional.map isOn).getD true
  convertUnderscores := (e.convertUnderscores.map isOn).getD true
  logLevel := Text.upper (e.logLevel.getD "INFO")
  metricsEnabled := (e.metricsEnabled.map isOn).getD true

/-- May an absent nilable header be bound to nothing now? -/
def policy (s : Settings) (e : Environment) : Bool :=
  (e.treatNilableAsOptional.map isOn).getD s.treatNilableAsOptional

/-- Do derived header names have hyphens for underscores, given what is said about it in the code?
    Only where nothing is said, the settings decide. -/
def converts (s : Settings) (said : Option Bool) : Bool := said.getD s.convertUnderscores

end Settings

/-! ## The log -/

/-- Where the program's messages go. -/
structure Logger where
  name : String
  level : Nat
  handlers : Nat
deriving DecidableEq, Repr

namespace Logger

/-- The level of that name; a name that is unknown stands for the level of information. -/
def levelOf : String → Nat
  | "NOTSET" => 0
  | "DEBUG" => 10
  | "WARN" | "WARNING" => 30
  | "ERROR" => 40
  | "FATAL" | "CRITICAL" => 50
  | _ => 20

/-- The program's logger before it has a handler. -/
def bare : Logger := ⟨"hdrbind", 0, 0⟩

/-- The logger with a handler. A logger that has one already keeps its level. -/
def ready (s : Settings) (l : Logger) : Logger :=
  if l.handlers = 0 then { l with level := levelOf s.logLevel, handlers := 1 } else l

end Logger

end TypedHeaders
