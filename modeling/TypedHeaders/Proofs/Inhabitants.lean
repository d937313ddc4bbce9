import TypedHeaders.Proofs.Collections
import TypedHeaders.Proofs.Fields

/-!
# The values of a declared type

Which values *inhabit* a declared type that headers are bound to (`Inhabits`),
under the constraints that the notes around it state. The constraints matter for
enumerations and literal types only: reshaping makes a text of their values,
which need not be one of them any more.

* `Inhabits.genuine`: what inhabits a type is *genuine*, in that the members of
  enumerations within it are members indeed;
* `inhabits_of_base`: what inhabits the base of a type inhabits the type;
* `inhabits_absent`: nothing inhabits what is nilable.
-/

namespace TypedHeaders

/-- The enumeration has a member of that name. -/
def Enumeration.Has (e : Enumeration) (label : String) : Prop := label ∈ e.members.map Prod.fst

/-- A value is genuine if the members of enumerations that are part of it are members indeed. -/
inductive Value.Genuine : Value → Prop
  | atom (a : Atom) : Genuine (.atom a)
  | bytes (s : String) : Genuine (.bytes s)
  | member {e : Enumeration} {label : String} (he : e.Has label) : Genuine (.member e label)
  | collection {kind : CollectionKind} {items : List Value} (hitems : ∀ x ∈ items, Genuine x) :
    Genuine (.collection kind items)
  | record {h : RecordHead} {fields : Entries Value} (hfields : ∀ f ∈ fields, Genuine f.2) :
    Genuine (.record h fields)
  | dict {entries : Entries Value} (hentries : ∀ e ∈ entries, Genuine e.2) :
    Genuine (.dict entries)

/-- Enumerations and literal types are choices. -/
def TypeExpr.isChoice : TypeExpr → Bool
  | .enum _ | .literal _ => true
  | _ => false

/-- The kinds of collection that are of that form: a sequence may be a tuple, too. -/
def CollectionForm.Admits (form : CollectionForm) (kind : CollectionKind) : Prop :=
  kind = form.kind ∨ form = .sequence ∧ kind = .tuple

mutual

/-- A value inhabits a declared type, around which notes state constraints. -/
inductive Inhabits : TypeExpr → List Constraint → Value → Prop
  | text {cs : List Constraint} (s : String) : Inhabits (.plain .str) cs (.text s)
  | int {cs : List Constraint} (n : Int) : Inhabits (.plain .int) cs (.int n)
  | float {cs : List Constraint} (x : Numeral.Binary64) : Inhabits (.plain .float) cs (.float x)
  | decimal {cs : List Constraint} (d : Numeral.Decimal) :
    Inhabits (.plain .decimal) cs (.decimal d)
  | bool {cs : List Constraint} (b : Bool) : Inhabits (.plain .bool) cs (.bool b)
  | member {e : Enumeration} {cs : List Constraint} {label : String} (he : e.Has label) :
    Inhabits (.enum e) cs (.member e label)
  | literal {values : List Atom} {cs : List Constraint} {a : Atom} (ha : a ∈ values) :
    Inhabits (.literal values) cs (.atom a)
  /-- The text that constraints make of a value of a choice. -/
  | reshaped {t : TypeExpr} {cs : List Constraint} {v : Value} {s : String}
    (ht : t.isChoice = true) (hcs : cs.any Constraint.isReshaping = true) (hv : Inhabits t [] v)
    (hs : (Scalar.toText v).result = .ok s) : Inhabits t cs (.text (reshapedBy cs s))
  | collection {form : CollectionForm} {kind : CollectionKind} {item : TypeExpr}
    {cs : List Constraint} {items : List Value} (hk : form.Admits kind)
    (hitems : ∀ x ∈ items, Inhabits item [] x) :
    Inhabits (.collection form item) cs (.collection kind items)
  /-- Nothing, which a union with nothing has. -/
  | nothing {style : UnionStyle} {ts : List TypeExpr} {cs : List Constraint}
    (hn : ts.any TypeExpr.isNothing = true) : Inhabits (.union style ts) cs .absent
  /-- A value of a member of a union. -/
  | inUnion {style : UnionStyle} {ts : List TypeExpr} {t : TypeExpr} {cs : List Constraint}
    {v : Value} (ht : t ∈ ts) (hv : Inhabits t cs v) : Inhabits (.union style ts) cs v
  | annotated {t : TypeExpr} {notes : List Note} {cs : List Constraint} {v : Value}
    (hv : Inhabits t (constraintsOf notes ++ cs) v) : Inhabits (.annotated t notes) cs v
  | record {h : RecordHead} {fields : List Field} {cs : List Constraint} {stored : Entries Value}
    (hstored : FieldsInhabit h fields stored) : Inhabits (.record h fields) cs (h.build stored)

/-- Values, by the names of fields, inhabit the fields of a record type: each is there, unless it
    may be left out. -/
inductive FieldsInhabit : RecordHead → List Field → Entries Value → Prop
  | nil {h : RecordHead} : FieldsInhabit h [] []
  | present {h : RecordHead} {f : Field} {fields : List Field} {v : Value} {stored : Entries Value}
    (hv : Inhabits (f.valueType h.kind) (f.constraints h.kind) v)
    (hstored : FieldsInhabit h fields stored) :
    FieldsInhabit h (f :: fields) ((f.name, v) :: stored)
  | omitted {h : RecordHead} {f : Field} {fields : List Field} {stored : Entries Value}
    (hf : h.mayOmit f.type = true) (hstored : FieldsInhabit h fields stored) :
    FieldsInhabit h (f :: fields) stored

end

mutual

/-- What inhabits a type is genuine. -/
theorem Inhabits.genuine {t : TypeExpr} {cs : List Constraint} {v : Value} :
    Inhabits t cs v → v.Genuine
  | .text _ | .int _ | .float _ | .decimal _ | .bool _ | .literal _ | .reshaped _ _ _ _
  | .nothing _ => .atom _
  | .member he => .member he
  | .collection _ hitems => .collection fun x hx => (hitems x hx).genuine
  | .inUnion _ hv | .annotated hv => hv.genuine
  | @Inhabits.record h _ _ _ hstored => by
    rw [RecordHead.build]
    cases h.kind with
    | model | dataclass => exact .record hstored.genuine
    | typedDict => exact .dict hstored.genuine

theorem FieldsInhabit.genuine {h : RecordHead} {fields : List Field} {stored : Entries Value} :
    FieldsInhabit h fields stored → ∀ e ∈ stored, e.2.Genuine
  | .nil, _, he => by cases he
  | .present hv hstored, e, he => by
    rcases List.mem_cons.1 he with rfl | he
    · exact hv.genuine
    · exact hstored.genuine e he
  | .omitted _ hstored, e, he => hstored.genuine e he

end

/-! ## From the base of a type to the type -/

section Base

open TypeExpr

variable {t : TypeExpr} {cs : List Constraint} {v : Value}

/-- What inhabits the type below all notes around a type, under them, inhabits the type. -/
theorem inhabits_of_unwrap : (t : TypeExpr) → (cs : List Constraint) →
    Inhabits t.unwrap (t.stated ++ cs) v → Inhabits t cs v
  | .annotated t notes, cs, hv => by
    rw [unwrap, stated, List.append_assoc] at hv
    exact .annotated (inhabits_of_unwrap t _ hv)
  | .plain _, _, hv | .enum _, _, hv | .literal _, _, hv | .collection _ _, _, hv
  | .fixedTuple _, _, hv | .mapping _ _, _, hv | .union _ _, _, hv | .presence _ _, _, hv
  | .record _ _, _, hv => hv

theorem inhabits_of_stripOptional (ht : t.stripOptional.isUnion = false)
    (hv : Inhabits t.stripOptional cs v) : Inhabits t cs v := by
  cases t with
  | union style ts =>
    have hmem := List.mem_singleton_self (TypeExpr.union style ts).stripOptional
    rw [← filter_eq_of_stripOptional ht] at hmem
    exact .inUnion (List.mem_of_mem_filter hmem) hv
  | _ => exact hv

/-- What inhabits the base of a type, under the notes in between, inhabits the type. -/
theorem inhabits_of_base (ht : t.base.isUnion = false)
    (hv : Inhabits t.base (t.baseConstraints ++ cs) v) : Inhabits t cs v := by
  rw [base, baseConstraints, List.append_assoc] at hv
  refine inhabits_of_unwrap t cs (inhabits_of_stripOptional ?_ (inhabits_of_unwrap _ _ hv))
  exact isUnion_stripOptional_unwrap ht

/-- Nothing inhabits a nilable type. -/
theorem inhabits_absent (ht : t.isNilable = true) (hb : t.base.isNothing = false) :
    Inhabits t cs .absent := by
  refine inhabits_of_unwrap t cs ?_
  cases hu : t.unwrap with
  | union style ts =>
    rw [isNilable, hu] at ht
    exact .nothing ht
  | plain p =>
    rw [isNilable, hu] at ht
    rw [base, hu] at hb
    exact absurd (ht.symm.trans hb) (by decide)
  | _ => rw [isNilable, hu] at ht; cases ht

end Base

end TypedHeaders
