import TypedHeaders.Proofs.Blame
import TypedHeaders.Proofs.Integers
import TypedHeaders.Proofs.Records
import TypedHeaders.Proofs.Soundness

/-!
# Native values

What the texts of a header are cast to is *native* to the type that the header is
bound to (`IsNative`): an atom of the tag of a scalar, or a list of atoms of the
tag of an array's items. A record is assembled from values that are native to the
types of its fields, and from nothing where a field may be nothing, if each field
is looked up where it was assembled (`native_of_assemble`).

A parameter is bound by finishing its *source*, the value that is cast or
assembled, whatever notes remain to be checked (`Parameter.bind_eq_source`).
-/

namespace TypedHeaders

open Numeral

/-! ## Cast atoms -/

/-- The atom may come of casting by the tag. No more digits are cast than may be. -/
inductive Atom.CastBy : Atom → Tag → Prop
  | text (s : String) : CastBy (.text s) .string
  | int {n : Int} (hn : width n.natAbs ≤ maxIntDigits) : CastBy (.number (.int n)) .int
  | float (x : Binary64) : CastBy (.number (.float x)) .float
  | decimal (d : Decimal) : CastBy (.number (.decimal d)) .decimal
  | bool (b : Bool) : CastBy (.bool b) .boolean

theorem Atom.castBy_of_cast {tag : Tag} {raw : String} {a : Atom} (ha : tag.cast raw = .ok a) :
    a.CastBy tag := by
  cases tag with
  | string => exact Except.ok.inj ha ▸ .text raw
  | int =>
    obtain ⟨n, hn, rfl⟩ := map_eq_ok.1 ha
    exact .int (Cast.width_of_toInt hn)
  | float =>
    obtain ⟨x, -, rfl⟩ := map_eq_ok.1 ha
    exact .float x
  | decimal =>
    obtain ⟨d, -, rfl⟩ := map_eq_ok.1 ha
    exact .decimal d
  | boolean =>
    obtain ⟨b, -, rfl⟩ := map_eq_ok.1 ha
    exact .bool b
  | other name => cases ha

/-! ## Native values -/

/-- The value is native to a type that is bound from one header: it is what the texts of the header
    are cast to. -/
inductive IsNative : TypeExpr → Value → Prop
  | scalar {t : TypeExpr} {tag : Tag} {a : Atom} (ht : t.scalarTag? = some tag)
    (ha : a.CastBy tag) : IsNative t (.atom a)
  | array {form : CollectionForm} {item : TypeExpr} {tag : Tag} {as : List Atom}
    (ht : item.scalarTag? = some tag) (has : ∀ a ∈ as, a.CastBy tag) :
    IsNative (.collection form item) (.collection .list (as.map .atom))

/-- Texts are cast to native values of a type that resolves to the tag. -/
theorem isNative_of_castTexts {t : TypeExpr} {kind : ParamKind} {tag : Tag} {nilable : Bool}
    (ht : t.resolve = .ok ⟨kind, some tag, nilable⟩) {first : String} {rest : List String}
    {v : Value} (hv : castTexts tag (kind = .array) first rest = .ok v) : IsNative t.base v := by
  rw [TypeExpr.resolve_eq] at ht
  split at ht
  · rename_i hs
    cases ht
    obtain ⟨a, ha, rfl⟩ := map_eq_ok.1 hv
    exact .scalar hs (Atom.castBy_of_cast ha)
  · rename_i ha
    cases ht
    obtain ⟨as, has, rfl⟩ := map_eq_ok.1 hv
    generalize t.base = b at ha ⊢
    cases b with
    | collection form item =>
      refine .array ha fun a ha => ?_
      obtain ⟨raw, -, hraw⟩ := exists_of_forall₂ (mapM_eq_ok.1 has) ha
      exact Atom.castBy_of_cast hraw
    | _ => cases ha
  · split at ht <;> cases ht

/-! ## Converting native values -/

section Conversion

open Converted

variable {cs : List Constraint} {v w : Value}

/-- A native value is there. -/
theorem IsNative.isAbsent {t : TypeExpr} (hv : IsNative t v) : v.isAbsent = false := by
  cases hv with
  | scalar _ ha => cases ha <;> rfl
  | array _ _ => rfl

/-- Within limits, a value that is native to a plain type is kept, or reshaped if it is a text. -/
theorem of_convertPlain {p : PlainType} {l : Limits} {tag : Tag} {a : Atom}
    (ht : (TypeExpr.plain p).scalarTag? = some tag) (ha : a.CastBy tag)
    (hw : (convertPlain p l (.atom a)).result = .ok w) :
    (∃ s s', a = .text s ∧ l.reshape s = .ok s' ∧ w = .text s') ∨
      tag ≠ .string ∧ w = .atom a := by
  cases p <;> cases ht <;> cases ha
  case str s =>
    obtain ⟨s', hs', hw⟩ := bind_result_eq_ok.1 hw
    obtain rfl := pure_result_eq_ok.1 hs'
    obtain ⟨s'', hs'', hw⟩ := bind_result_eq_ok.1 hw
    exact .inl ⟨s, s'', rfl, ofReason_result_eq_ok.1 hs'', (pure_result_eq_ok.1 hw).symm⟩
  case bool b =>
    obtain ⟨b', hb', hw⟩ := bind_result_eq_ok.1 hw
    obtain rfl := pure_result_eq_ok.1 hb'
    exact .inr ⟨by decide, (pure_result_eq_ok.1 hw).symm⟩
  all_goals
    obtain ⟨x, hx, hw⟩ := bind_result_eq_ok.1 hw
    obtain rfl := pure_result_eq_ok.1 hx
    obtain ⟨-, -, hw⟩ := bind_result_eq_ok.1 hw
    exact .inr ⟨by decide, (pure_result_eq_ok.1 hw).symm⟩

/-- A text is converted to a text, and any other value that is native to a plain type to itself. -/
theorem of_convert_plain {p : PlainType} {tag : Tag} {a : Atom}
    (ht : (TypeExpr.plain p).scalarTag? = some tag) (ha : a.CastBy tag)
    (hw : (convert (.plain p) cs (.atom a)).result = .ok w) :
    (∃ s s', a = .text s ∧ w = .text s') ∨ tag ≠ .string ∧ w = .atom a := by
  rw [convert] at hw
  obtain ⟨x, hx, hw⟩ := TypeExpr.within_result_eq_ok.1 hw
  rcases of_convertPlain ht ha hx with ⟨s, s', rfl, -, rfl⟩ | ⟨htag, rfl⟩
  · obtain ⟨s'', rfl⟩ := isText_of_checkAll hw
    exact .inl ⟨s, s'', rfl, rfl⟩
  · have htext : ∀ s, (Scalar.toText (.atom a)).result ≠ .ok s := by
      cases ha <;> first | exact fun _ => refuse_result_ne_ok | exact absurd rfl htag
    exact .inr ⟨htag, Constraint.eq_of_checkAll_of_not_text htext hw⟩

/-- What a native value of a plain type is converted to is native to the type as well. -/
theorem isNative_of_convert_plain {p : PlainType} (hv : IsNative (.plain p) v)
    (hw : (convert (.plain p) cs v).result = .ok w) : IsNative (.plain p) w := by
  cases hv with
  | scalar ht ha =>
    rcases of_convert_plain ht ha hw with ⟨s, s', rfl, rfl⟩ | ⟨-, rfl⟩
    · cases ha
      exact .scalar ht (.text s')
    · exact .scalar ht ha

/-- The items of a converted list of scalars are conversions of its items. -/
theorem exists_items_of_convert_list {form : CollectionForm} {item : TypeExpr} {vs : List Value}
    (ht : item.scalarTag?.isSome = true)
    (hw : (convert (.collection form item) cs (.collection .list vs)).result = .ok w) :
    ∃ kind xs, w = .collection kind xs ∧
      ∀ x ∈ xs, ∃ v ∈ vs, (convert item [] v).result = .ok x := by
  obtain ⟨kind, _, ys, ⟨⟩, -, hys, -, rfl, -⟩ := (convert_array_eq_ok ht).1 hw
  exact ⟨form.kindOf .list, form.itemsOf ys, rfl, fun y hy =>
    exists_of_forall₂ hys ((form.itemsOf_sublist ys).subset hy)⟩

end Conversion

/-! ## Fields -/

section Fields

variable {f : Field} {d : FieldDescriptor} {head : RecordHead} {converts : Bool}
  {fields : List Field} {r : RecordDescriptor} {h : Headers} {nilable lenient : Bool}
  {entries : Entries Value} {v : Value}

/-- What is read for a field is native to its type, or nothing. -/
theorem isNative_of_read {kind : RecordKind} (hd : f.describe kind converts = .ok d)
    (hv : d.read h lenient = .ok (some v)) :
    v = .absent ∧ (f.valueType kind).isNilable = true ∨ IsNative (f.valueType kind).base v := by
  obtain ⟨-, hnilable, -⟩ := Field.describe_eq_ok hd
  by_cases habsent : v = .absent
  · subst habsent
    exact .inl ⟨rfl, hnilable ▸ FieldDescriptor.nilable_of_read hv⟩
  · right
    obtain ⟨⟨k, tag, n⟩, hresolve, hd⟩ := bind_eq_ok.1 hd
    rw [← Field.base_declared]
    rw [FieldDescriptor.read_eq] at hv
    split at hv
    · cases hv
    · cases hv
      exact absurd rfl habsent
    · cases hv
    · split at hv
      · rename_i hcast
        cases hv
        split at hd
        · cases hd
        · cases hd
        · rename_i hr
          cases hr
          cases Except.ok.inj hd
          exact isNative_of_castTexts hresolve hcast
      · cases hv

theorem mem_of_giver {key : String} (hd : r.giver? key = some d) : d ∈ r.fields := by
  rw [RecordDescriptor.giver?, List.findRev?_eq_find?_reverse] at hd
  exact List.mem_reverse.1 (List.mem_of_find?_eq_some hd)

/-- Where each field is looked up under the key under which it is assembled, and no two under the
    same, what is found for a field is native to its type, or nothing. -/
theorem native_of_assemble (hds : r.Describes head converts fields)
    (hkeys : ∀ f ∈ fields, (f.boundAlias? head.kind).getD f.name = f.key)
    (hnodup : (fields.map Field.key).Nodup)
    (ha : r.assemble h nilable lenient = .ok (some entries)) (hf : f ∈ fields)
    (hv : entries.lookup f.key = some v) :
    v = .absent ∧ (f.valueType head.kind).isNilable = true ∨
      IsNative (f.valueType head.kind).base v := by
  rcases @lookup_of_assembleFields h nilable lenient [] entries r.fields f.key ha with
    ⟨d, w, hd, hw, hlookup⟩ | ⟨-, hlookup⟩
  · obtain rfl : v = w := Option.some.inj (hv.symm.trans hlookup)
    have hname : d.name = f.key := name_of_giver hd
    obtain ⟨g, hg, hdescribe⟩ := exists_of_forall₂ hds (mem_of_giver hd)
    have hkey : g.key = f.key := by
      rw [← hkeys g hg, ← (Field.describe_eq_ok hdescribe).2.2, hname]
    obtain rfl : g = f := List.inj_on_of_nodup_map hnodup hg hf hkey
    exact isNative_of_read hdescribe hw
  · rw [hlookup] at hv
    cases hv

end Fields

/-! ## The source of a parameter -/

namespace Parameter

variable {p : Parameter} {h : Headers} {lenient : Bool}

/-- The value that is finished for a parameter: the one that is cast from its header, or a
    dictionary that is assembled for it. Nothing comes of an empty header, without being
    finished. -/
def source (p : Parameter) (h : Headers) (lenient : Bool) : Except BindError (Option Value) :=
  match p.reading with
  | .scalar tag _ | .array tag _ =>
    match h.find p.header p.nilable lenient with
    | .error e => .error e
    | .ok .nothing => .ok none
    | .ok .missing => .error (.missing p.header)
    | .ok (.values first rest) =>
      match castTexts tag p.isArray first rest with
      | .ok v => .ok (some v)
      | .error e => .error (.uncast p.header e)
  | .record r _ =>
    match r.assemble h p.nilable lenient with
    | .error e => .error e
    | .ok (some fields) => .ok (some (.dict fields))
    | .ok none => .ok (some .absent)

/-- A parameter is bound by finishing its source. -/
theorem bind_eq_source (p : Parameter) (h : Headers) (lenient : Bool) :
    p.bind h lenient =
      match p.source h lenient with
      | .error e => .error e
      | .ok none => .ok .absent
      | .ok (some v) => p.finish v := by
  unfold source
  cases hr : p.reading with
  | scalar tag descriptor | array tag descriptor =>
    simp only [bind, hr, bindTexts_eq]
    cases h.find p.header p.nilable lenient with
    | error e => rfl
    | ok found =>
      cases found with
      | nothing | missing => rfl
      | values first rest =>
        dsimp only
        cases castTexts tag p.isArray first rest <;> rfl
  | record r tag =>
    rw [bind_of_record hr]
    dsimp only
    cases r.assemble h p.nilable lenient with
    | error e => rfl
    | ok found => cases found <;> rfl

/-- What is finished for a parameter is what was to be converted. -/
theorem casts_of_source {v : Value} (hv : p.source h lenient = .ok (some v)) :
    p.Casts h lenient v := by
  unfold source at hv
  cases hr : p.reading with
  | scalar tag descriptor | array tag descriptor =>
    have htag : p.reading.ownTag? = some tag := by rw [hr]; rfl
    rw [hr] at hv
    dsimp only at hv
    split at hv
    · cases hv
    · cases hv
    · cases hv
    · rename_i hfind
      split at hv
      · rename_i hcast
        cases hv
        exact .texts htag hfind hcast
      · cases hv
  | record r tag =>
    rw [hr] at hv
    dsimp only at hv
    split at hv
    · cases hv
    · rename_i ha
      cases hv
      exact .fields hr ha
    · rename_i ha
      cases hv
      exact .absent hr ha

variable {convert : Bool} {name : String} {slot : Nat} {declared : TypeExpr} {given : Option Marker}

/-- The base of the type of a parameter is neither a union nor the type of nothing. -/
theorem base_of_ofType (hp : ofType convert name slot declared given = .ok p) :
    p.type.base.isUnion = false ∧ p.type.base.isNothing = false := by
  obtain ⟨-, htype, -, -, hreads⟩ := of_ofType hp
  rw [htype, base_target]
  rcases hreads with ⟨hplain, -⟩ | ⟨_, r, -, hr⟩
  · exact ⟨TypeExpr.not_isUnion_of_isPlainlyBound hplain,
      TypeExpr.isNothing_of_isPlainlyBound hplain⟩
  · obtain ⟨head, fields, hrecord, -⟩ := RecordDescriptor.describes_of_ofType hr
    rw [hrecord]
    exact ⟨rfl, rfl⟩

/-- The value is a source for a declared type: native to its base, nothing if it is nilable, or
    assembled for the fields of a record. -/
inductive IsSource (t : TypeExpr) (h : Headers) (lenient : Bool) : Value → Prop
  | native {v : Value} (hv : IsNative t.base v) : IsSource t h lenient v
  | nothing (hn : t.isNilable = true) : IsSource t h lenient .absent
  | assembled {head : RecordHead} {fields : List Field} {r : RecordDescriptor}
    {converts nilable : Bool} {entries : Entries Value} (ht : t.base = .record head fields)
    (hr : r.Describes head converts fields)
    (ha : r.assemble h nilable lenient = .ok (some entries)) : IsSource t h lenient (.dict entries)

/-- What is cast or assembled for a parameter that is made from a declaration. -/
theorem isSource_of_source (hp : ofType convert name slot declared given = .ok p) {v : Value}
    (hv : p.source h lenient = .ok (some v)) : IsSource p.type h lenient v := by
  have htype := (of_ofType hp).2.1
  have hcasts := casts_of_source hv
  obtain ⟨⟨kind, tag, nilable⟩, hresolve, hp⟩ := bind_eq_ok.1 hp
  dsimp only at hp
  split at hp
  case h_1 | h_2 =>
    cases Except.ok.inj hp
    cases hcasts with
    | texts htag _ hcast =>
      cases htag
      exact .native (htype ▸ isNative_of_castTexts hresolve hcast)
    | fields hr | absent hr => cases hr
  case h_3 =>
    -- A record is assembled from the headers of its fields, or is nothing if it is nilable.
    obtain ⟨r, hr, hp⟩ := bind_eq_ok.1 hp
    cases Except.ok.inj hp
    obtain ⟨head, fields, hbase, hds⟩ := RecordDescriptor.describes_of_ofType hr
    cases hcasts with
    | texts htag => cases htag
    | fields hreading ha =>
      cases hreading
      exact .assembled hbase hds ha
    | absent hreading ha =>
      cases hreading
      cases nilable with
      | true => exact .nothing (TypeExpr.nilable_of_resolve hresolve).symm
      | false => exact absurd ha assembleFields_required_ne_none

end Parameter

end TypedHeaders
