import TypedHeaders.Value

/-!
# Elements of sets

Which values can be elements of a set, and when two of them are the same one.
What can be changed cannot be an element: lists, sets, dictionaries and records.
Elements are the same if they are equal, so that 1, 1.0 and the truth value are
one element, and a member of an enumeration of integers and its integer are one;
but a NaN is not even the same as itself.
-/

namespace TypedHeaders.Value

mutual

/-- Can the value be an element of a set? -/
def canBeElement : Value → Bool
  | .atom _ | .bytes _ | .member _ _ | .collection .frozenset _ => true
  | .collection .tuple items => allCanBeElements items
  | _ => false

/-- Can each of the values be an element of a set? -/
def allCanBeElements : List Value → Bool
  | [] => true
  | v :: vs => canBeElement v && allCanBeElements vs

end

mutual

/-- Are two elements the same? -/
def sameElement : Value → Value → Bool
  | .bytes s, .bytes t => s = t
  | .collection .tuple vs, .collection .tuple ws => sameElements vs ws
  | .collection .frozenset vs, .collection .frozenset ws =>
    vs.length = ws.length && allAmong vs ws
  | v, w =>
    match v.atom?, w.atom? with
    | some a, some b => a.equal b
    | _, _ =>
      match v, w with
      | .member e l, .member e' l' => e = e' && l = l'
      | _, _ => false

/-- Are the elements of two lists the same, place by place? -/
def sameElements : List Value → List Value → Bool
  | [], [] => true
  | v :: vs, w :: ws => sameElement v w && sameElements vs ws
  | _, _ => false

/-- Is each element the same as one of the others? -/
def allAmong : List Value → List Value → Bool
  | [], _ => true
  | v :: vs, ws => ws.any (sameElement v) && allAmong vs ws

end

end TypedHeaders.Value
