import TypedHeaders.Conversion.Schema

/-!
# Building conversions

The conversion to a declared type is *built* once, before any value is converted.
A constraint that the type does not check itself is checked after it, whatever it
is asked of; only that infinity and NaN are allowed cannot be checked after
anything. A conversion with such a constraint is not built.

Types within the type come first, in order, and then the type's own constraints,
those of inner notes before those of outer ones.
-/

namespace TypedHeaders

/-- Why the conversion to a type is not built. -/
inductive BuildError where
  /-- The constraint cannot be checked after a conversion of this kind. -/
  | inapplicable (constraint schema : String)
deriving DecidableEq, Repr

/-- What is said of a conversion that is not built. -/
def BuildError.message : BuildError → String
  | .inapplicable constraint schema =>
    s!"Unable to apply constraint '{constraint}' to schema of type '{schema}'"

/-- The first of some constraints that cannot be checked after a conversion of the kind that the
    schema tells. -/
def Constraint.inapplicable? (schema : String) : List Constraint → Option BuildError
  | [] => none
  | .allowInfNan true :: _ => some (.inapplicable "allow_inf_nan" schema)
  | c :: cs => inapplicable? c.schemaAfter cs

/-- The first of some constraints that cannot be checked after the conversion to the type. -/
def TypeExpr.inapplicable? (t : TypeExpr) (cs : List Constraint) : Option BuildError :=
  Constraint.inapplicable? t.schema (cs.dropWhile t.checks)

mutual

/-- Why the conversion to a declared type under constraints is not built. -/
def buildError? : TypeExpr → List Constraint → Option BuildError
  | .plain p, cs => (TypeExpr.plain p).inapplicable? cs
  | .enum e, cs => (TypeExpr.enum e).inapplicable? cs
  | .literal values, cs => (TypeExpr.literal values).inapplicable? cs
  | .collection form item, cs =>
    buildError? item [] <|> (TypeExpr.collection form item).inapplicable? cs
  | .fixedTuple ts, cs => anyBuildError? ts <|> (TypeExpr.fixedTuple ts).inapplicable? cs
  | .mapping key value, cs =>
    buildError? key [] <|> buildError? value [] <|> (TypeExpr.mapping key value).inapplicable? cs
  | .union style ts, cs =>
    if (ts.countP fun t => !t.isNothing) = 1 then otherBuildError? ts cs
    else anyBuildError? ts <|> (TypeExpr.union style ts).inapplicable? cs
  | .annotated t notes, cs => buildError? t (constraintsOf notes ++ cs)
  | .presence _ t, cs => buildError? t cs
  | .record h fields, cs =>
    fieldBuildError? h.kind fields <|> (TypeExpr.record h fields).inapplicable? cs

/-- Why the conversion to one of some types is not built. -/
def anyBuildError? : List TypeExpr → Option BuildError
  | [] => none
  | t :: ts => buildError? t [] <|> anyBuildError? ts

/-- Why the conversion to the first of some types that is not the type of nothing is not built. -/
def otherBuildError? : List TypeExpr → List Constraint → Option BuildError
  | [], _ => none
  | t :: ts, cs => if t.isNothing then otherBuildError? ts cs else buildError? t cs

/-- Why the conversion to the type of one of some fields is not built. -/
def fieldBuildError? (kind : RecordKind) : List Field → Option BuildError
  | [] => none
  | ⟨_, t, _, _, _, limits⟩ :: fields =>
    let own := (limits.map Limits.constraints).getD []
    let error? : Option BuildError :=
      match kind, t with
      | .model, .annotated base notes => buildError? base (own ++ constraintsOf notes)
      | _, t => buildError? t own
    error? <|> fieldBuildError? kind fields

end

/-- Why the conversion to a declared type is not built. -/
def TypeExpr.buildError? (t : TypeExpr) : Option BuildError := TypedHeaders.buildError? t []

end TypedHeaders
