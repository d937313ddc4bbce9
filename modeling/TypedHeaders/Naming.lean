import TypedHeaders.Limits

/-!
# Header names

The name of the header that a parameter or a field is bound from, if it is
derived from the declared name: that name, with hyphens for underscores where
these are converted. A marker may give a name itself, or decide about the
conversion.
-/

namespace TypedHeaders

/-- A declared name as a header name, with hyphens for underscores if `convert` says so. -/
def headerKey (convert : Bool) (name : String) : String :=
  if convert then String.ofList (name.toList.map fun c => if c = '_' then '-' else c) else name

namespace Marker

/-- Are underscores converted for a parameter with this marker? -/
def converts (m : Marker) (convert : Bool) : Bool := m.convertUnderscores.getD convert

/-- The header of a parameter with this marker. -/
def headerName (m : Marker) (convert : Bool) (name : String) : String :=
  match m.name with
  | some given => if given = "" then headerKey (m.converts convert) name else given
  | none => headerKey (m.converts convert) name

end Marker

end TypedHeaders
