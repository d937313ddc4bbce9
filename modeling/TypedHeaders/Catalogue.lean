import TypedHeaders.Demo

/-!
# The catalogue

The functions that can be named on the command line, as a module and a path of
names below it with a colon between them. Modules are found through the packages
that hold them, and what is below a module by one name after the other; each kind
of thing says in its own way that it has nothing of some name.
-/

namespace TypedHeaders

/-- What a name can stand for. -/
inductive Entity where
  | package (name : String) (members : List (String × Entity))
  | module (name : String) (members : List (String × Entity))
  | type (name : String) (members : List (String × Entity))
  /-- A type whose values are records that are checked. -/
  | model (name : String)
  | enumeration (type : Enumeration)
  /-- The member `label` of an enumeration. -/
  | member (type : Enumeration) (label : String)
  | text (s : String)
  /-- A function; only the demo handlers are bound from headers. -/
  | function (name : String) (demo : Option Demo)

/-- Why a target does not name anything. -/
inductive LoadError where
  /-- The target is not a module and a name with a colon between them. -/
  | malformed (target : String)
  /-- The module is named from a package that is not told. -/
  | relative (name : String)
  | noModule (name : String)
  /-- The module of that name was to be below `parent`, which is no package. -/
  | noPackage (name parent : String)
  | notInModule (module part : String)
  | notInType (type part : String)
  /-- What a model or an enumeration does not have. -/
  | notInClosedType (part : String)
  /-- What the values of a type do not have. -/
  | notInValue (type part : String)
deriving DecidableEq, Repr

/-- What is said of a target that does not name anything. -/
def LoadError.message : LoadError → String
  | .malformed target =>
    let target := Text.quote target
    s!"expected 'module:function', got {target}"
  | .relative name =>
    let name := Text.quote name
    s!"the 'package' argument is required to perform a relative import for {name}"
  | .noModule name => s!"No module named {Text.quote name}"
  | .noPackage name parent =>
    s!"No module named {Text.quote name}; {Text.quote parent} is not a package"
  | .notInModule m part => s!"module '{m}' has no attribute '{part}'"
  | .notInType t part => s!"type object '{t}' has no attribute '{part}'"
  | .notInClosedType part => part
  | .notInValue t part => s!"'{t}' object has no attribute '{part}'"

namespace Entity

/-- What is directly below. -/
def members : Entity → List (String × Entity)
  | package _ ms | module _ ms | type _ ms => ms
  | enumeration e => e.members.map fun m => (m.1, .member e m.1)
  | member e label =>
    [("name", .text label), ("value", .text ((e.value? label).getD .absent).plain)] ++
      e.members.map fun m => (m.1, .member e m.1)
  | model _ | text _ | function _ _ => []

/-- The error of having nothing of that name. -/
def lacks (part : String) : Entity → LoadError
  | package name _ | module name _ => .notInModule name part
  | type name _ => .notInType name part
  | model _ | enumeration _ => .notInClosedType part
  | member e _ => .notInValue e.name part
  | text _ => .notInValue "str" part
  | function _ _ => .notInValue "function" part

/-- What is directly below under that name. -/
def get (e : Entity) (part : String) : Except LoadError Entity :=
  match e.members.lookup part with
  | some below => .ok below
  | none => .error (e.lacks part)

/-- The full name of a function or a type; nothing else has one. -/
def fullName : Entity → Except LoadError String
  | type name _ | model name | function name _ => .ok name
  | enumeration e => .ok e.name
  | e => .error (e.lacks "__qualname__")

/-- The entity as messages show it. -/
def shown : Entity → String
  | package name _ | module name _ => s!"<module '{name}'>"
  | type name _ | model name => s!"<class '{name}'>"
  | enumeration e => s!"<enum '{e.name}'>"
  | member e label => e.shownMember label
  | text s => Text.quote s
  | function name _ => s!"<function {name}>"

/-- The signature as far as headers are concerned, of what can be called. -/
def handler? : Entity → Option Handler
  | function _ (some d) => some d.handler
  | type name _ | model name | function name none => some { name := name, params := [] }
  | enumeration e => some { name := e.name, params := [] }
  | package _ _ | module _ _ | member _ _ | text _ => none

end Entity

namespace Catalogue

/-- Functions that are not bound from headers, below the type of that name. -/
def methods (type : String) (names : List String) : List (String × Entity) :=
  names.map fun n => (n, .function (type ++ "." ++ n) none)

/-- Functions that are not bound from headers. -/
def functions (names : List String) : List (String × Entity) :=
  names.map fun n => (n, .function n none)

/-- Types of which nothing below can be named. -/
def types (names : List String) : List (String × Entity) := names.map fun n => (n, .type n [])

/-- Models. -/
def models (names : List String) : List (String × Entity) := names.map fun n => (n, .model n)

/-- Modules of which nothing below can be named, in the package of that name. -/
def bareModules (package : String) (names : List String) : List (String × Entity) :=
  names.map fun n => (n, .module (package ++ "." ++ n) [])

/-- The demo handlers, and what belongs to them. -/
def app : Entity :=
  .module "hdrbind.app" <|
    [("whoami", .function "whoami" (some .whoami)), ("quota", .function "quota" (some .quota)),
     ("trace", .function "trace" (some .trace)),
     (Demo.tier.name, .enumeration Demo.tier),
     ("HeaderBinder",
      .type "HeaderBinder" (methods "HeaderBinder" ["__init__", "populate", "bind", "__call__"])),
     ("Header", .type "Header" (methods "Header" ["__init__", "header_name"])),
     ("HeaderError", .type "HeaderError" (methods "HeaderError" ["__init__", "to_dict"]))] ++
    models ["ClientHeaders", "TraceHeaders"] ++
    functions
      ["bound_endpoint", "header_error_handler", "health", "metrics", "observe_binding",
       "prometheus_latest", "get_logger"]

/-- Parameters and how they are bound. -/
def params : Entity :=
  .module "hdrbind.binding.params" <|
    [("HeaderBindingSet",
      .type "HeaderBindingSet" (methods "HeaderBindingSet"
        ["__init__", "add", "freeze", "is_not_empty", "__len__", "__iter__", "get", "populate",
         "assemble_record", "bind"]))] ++
    types ["HeaderView", "HeaderParameter", "HeaderCastError", "MissingHeaderError"] ++
    functions ["new_feed", "_is_empty_value", "cast_param", "cast_param_array", "get_logger"]

/-- Headers and where they come from. -/
def headers : Entity :=
  .module "hdrbind.binding.headers" <|
    ("HeaderView", .type "HeaderView" (methods "HeaderView" ["getlist"])) ::
    functions ["_latin1", "_raw_pairs", "as_header_view", "parse_header_lines"]

/-- The package of binding. -/
def binding : Entity :=
  .package "hdrbind.binding" <|
    [("params", params), ("headers", headers)] ++
    bareModules "hdrbind.binding"
      ["casting", "cli", "constraints", "errors", "signature", "types"]

/-- All packages, by name. -/
def packages : List (String × Entity) :=
  [("hdrbind",
    .package "hdrbind"
      [("app", app), ("binding", binding), ("config", .module "hdrbind.config" []),
       ("obs", .package "hdrbind.obs" (bareModules "hdrbind.obs" ["prom"])),
       ("utils", .package "hdrbind.utils" (bareModules "hdrbind.utils" ["logging"]))])]

/-- The module below `e`, of the name `name`, to which the rest of a dotted name leads. -/
def findModule (name : String) (e : Entity) : List String → Except LoadError Entity
  | [] => .ok e
  | part :: rest =>
    let below := name ++ "." ++ part
    match e with
    | .package _ members =>
      match members.lookup part with
      | some e => findModule below e rest
      | none => .error (.noModule below)
    | _ => .error (.noPackage below name)

/-- The names between the points of a dotted name. -/
def parts (name : String) : List String := (name.toList.splitOn '.').map String.ofList

/-- The module of a dotted name, which must not start with a point. -/
def importModule (name : String) : Except LoadError Entity :=
  match parts name with
  | [] => .error (.noModule name)
  | "" :: _ :: _ => .error (.relative name)
  | first :: rest =>
    match packages.lookup first with
    | some e => findModule first e rest
    | none => .error (.noModule first)

/-- What a target names. -/
def load (target : String) : Except LoadError Entity :=
  match target.toList.span (· ≠ ':') with
  | (c :: module, _ :: d :: part) => do
    let e ← importModule (String.ofList (c :: module))
    (parts (String.ofList (d :: part))).foldlM (fun e part => e.get part) e
  | _ => .error (.malformed target)

end Catalogue

end TypedHeaders
