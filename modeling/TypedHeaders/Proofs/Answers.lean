import TypedHeaders.Proofs.BindPaths
import TypedHeaders.Proofs.Natives
import TypedHeaders.Proofs.Requests

/-!
# Answers to requests

Every request to a demo handler is answered (`Service.IsAnswer`): with what the
handler makes of its arguments if the headers are bound, and with the body of the
failure if they are not. All that is asked of the request is an address, which is
looked at before a failure is answered.

What is answered can be written. Of all values, only integers with too many digits
and binary numbers that are not finite cannot (`Value.IsWritable`). An integer
that is cast has few enough digits, and no demo handler takes binary numbers
(`Demo.bindingSet_isWritten`).

* `Parameter.isWritable_of_bind`: what a parameter is bound to can be written;
* `Service.respondAll_answers`: the answer to a request after any run of requests.
-/

namespace TypedHeaders

open Numeral

/-! ## Values that can be written -/

/-- Can the atom be written? -/
def Atom.isWritable : Atom → Bool
  | .number (.int n) => width n.natAbs ≤ maxIntDigits
  | .number (.float x) => x.isFinite
  | _ => true

/-- All atoms of the value can be written. -/
inductive Value.IsWritable : Value → Prop
  | atom {a : Atom} (ha : a.isWritable = true) : IsWritable (.atom a)
  | bytes (s : String) : IsWritable (.bytes s)
  | member {e : Enumeration} {label : String}
    (he : ((e.value? label).getD .absent).isWritable = true) : IsWritable (.member e label)
  | collection {kind : CollectionKind} {items : List Value}
    (hitems : ∀ v ∈ items, IsWritable v) : IsWritable (.collection kind items)
  | record {head : RecordHead} {fields : Entries Value}
    (hfields : ∀ f ∈ fields, IsWritable f.2) : IsWritable (.record head fields)
  | dict {entries : Entries Value} (hentries : ∀ e ∈ entries, IsWritable e.2) :
    IsWritable (.dict entries)

theorem Value.isWritable_absent : Value.absent.IsWritable := .atom rfl

/-- Can all values be written that native values of the type are converted to? -/
def TypeExpr.isWritten : TypeExpr → Bool
  | .plain p => p ≠ .float
  | .enum e => e.values.all Atom.isWritable
  | .literal values => values.all Atom.isWritable
  | .collection _ item => item.isWritten
  | .annotated t _ => t.isWritten
  | _ => false

/-- Is the field found under the key under which it is assembled, and can its values be written? It
    holds nothing else if it is not given. -/
def Field.isWritten (kind : RecordKind) (f : Field) : Bool :=
  (f.boundAlias? kind).getD f.name = f.key && (f.valueType kind).base.isWritten &&
    f.fallback.all Value.isAbsent

/-- Is it a type that is written as a single name? -/
def TypeExpr.isPlain : TypeExpr → Bool
  | .plain _ => true
  | _ => false

/-- Can everything be written that the parameter is bound to? Only a value of a plain type is still
    native when it is converted again under the notes. -/
def Parameter.isWritten (p : Parameter) : Bool :=
  match p.type.base with
  | .record head fields =>
    p.notes.isEmpty && fields.all (Field.isWritten head.kind) && (fields.map Field.key).Nodup
  | t => t.isWritten && (p.notes.isEmpty || t.isPlain)

/-! ## Conversion -/

section Conversion

open Converted

variable {t : TypeExpr} {cs : List Constraint} {schema : String} {v w x : Value}

/-- Constraints leave a value as it is, or make a text of it. -/
theorem isWritable_of_checkAll (hx : x.IsWritable)
    (hw : Constraint.checkAll schema cs x = .ok w) : w.IsWritable := by
  cases hcs : cs.any Constraint.isReshaping with
  | true =>
    obtain ⟨s, -, rfl⟩ := Constraint.checkAll_of_reshaping hcs hw
    exact .atom rfl
  | false => exact Constraint.eq_of_checkAll hcs hw ▸ hx

theorem isWritable_of_castBy {tag : Tag} {a : Atom} (ha : a.CastBy tag) (htag : tag ≠ .float) :
    a.isWritable = true := by
  cases ha with
  | int hn => exact decide_eq_true hn
  | float x => exact absurd rfl htag
  | text s | decimal d | bool b => rfl

/-- A native value of a plain type can be written unless it is a binary number. -/
theorem isWritable_of_isNative_plain {p : PlainType} (hp : p ≠ .float)
    (hv : IsNative (.plain p) v) : v.IsWritable := by
  cases hv with
  | @scalar _ tag a ht ha =>
    refine .atom (isWritable_of_castBy ha ?_)
    rintro rfl
    cases p <;> first | exact hp rfl | cases ht

theorem isWritable_of_convert_member {e : Enumeration} (he : e.values.all Atom.isWritable = true)
    (hv : v.Genuine) (hx : (e.convert v).result = .ok x) : x.IsWritable := by
  obtain ⟨label, rfl, -⟩ := e.isMember_of_convert hv hx
  refine .member ?_
  cases hvalue : e.value? label with
  | none => rfl
  | some a =>
    obtain ⟨before, after, hmembers, -⟩ := List.lookup_eq_some_iff.1 hvalue
    refine List.all_eq_true.1 he a (List.mem_map.2 ⟨(label, a), ?_, rfl⟩)
    rw [hmembers]
    exact List.mem_append_right _ List.mem_cons_self

/-- What a native value is converted to can be written. -/
theorem isWritable_of_convert : (t : TypeExpr) → (cs : List Constraint) → {v w : Value} →
    t.isWritten = true → IsNative t v → (convert t cs v).result = .ok w → w.IsWritable
  | .annotated t notes, cs, v, w, ht, hv, hw => by
    have hv : IsNative t v := by
      cases hv with
      | scalar htag ha => exact .scalar htag ha
    rw [convert_annotated] at hw
    exact isWritable_of_convert t _ ht hv hw
  | .plain p, cs, v, w, ht, hv, hw =>
    isWritable_of_isNative_plain (of_decide_eq_true ht) (isNative_of_convert_plain hv hw)
  | .enum e, cs, v, w, ht, hv, hw => by
    rw [convert] at hw
    obtain ⟨x, hx, hrest⟩ := (TypeExpr.within_result_of_checks_none fun _ => rfl).1 hw
    cases hv with
    | scalar _ _ =>
      exact isWritable_of_checkAll (isWritable_of_convert_member ht (.atom _) hx) hrest
  | .literal values, cs, v, w, ht, hv, hw => by
    rw [convert] at hw
    obtain ⟨x, hx, hw⟩ := (TypeExpr.within_result_of_checks_none fun _ => rfl).1 hw
    obtain ⟨a, ha, rfl⟩ := map_eq_ok.1 (ofReason_result_eq_ok.1 hx)
    exact isWritable_of_checkAll (.atom (List.all_eq_true.1 ht a (mem_of_convertLiteral ha))) hw
  | .collection form item, cs, v, w, ht, hv, hw => by
    cases hv with
    | scalar htag _ => cases htag
    | array htag has =>
      obtain ⟨kind, xs, rfl, hxs⟩ := exists_items_of_convert_list (by rw [htag]; rfl) hw
      -- Each item is converted from one that was cast.
      refine .collection fun x hx => ?_
      obtain ⟨v, hv, hx⟩ := hxs x hx
      obtain ⟨a, ha, rfl⟩ := List.mem_map.1 hv
      exact isWritable_of_convert item [] ht (.scalar htag (has a ha)) hx

end Conversion

/-- A union has no values that are native to it. -/
theorem TypeExpr.not_isUnion_of_isWritten {t : TypeExpr} (ht : t.isWritten = true) :
    t.isUnion = false := by
  cases t with
  | union style ts => cases ht
  | _ => rfl

/-! ## Parameters -/

section Record

variable {head : RecordHead} {fields : List Field} {entries : Entries Value}
  {cells : List ConvertedField}

theorem RecordHead.isWritable_build {stored : Entries Value} (h : ∀ e ∈ stored, e.2.IsWritable) :
    (head.build stored).IsWritable := by
  by_cases hk : head.kind = .typedDict
  · rw [build_of_typedDict hk]
    exact .dict h
  · rw [build_of_instance hk]
    exact .record h

/-- A field that is filled from what was assembled holds a value that can be written. -/
theorem isWritable_of_fill {f : Field} {c : ConvertedField} {v : Value}
    (hf : f.isWritten head.kind = true) (hplain : (f.valueType head.kind).base.IsPlainlyBound)
    (hnative : ∀ v, entries.lookup f.key = some v →
      v = .absent ∧ (f.valueType head.kind).isNilable = true ∨
        IsNative (f.valueType head.kind).base v)
    (hc : (f.fill head entries).result = .ok c) (hv : c.value = some v) : v.IsWritable := by
  rw [Field.isWritten, Bool.and_eq_true, Bool.and_eq_true] at hf
  obtain ⟨⟨-, hwritten⟩, hfallback⟩ := hf
  cases hlookup : entries.lookup f.key with
  | none =>
    obtain ⟨-, rfl⟩ := (Field.fill_of_none hlookup).1 hc
    rw [show f.fallback = some v from hv, Option.all_some, Value.isAbsent_iff] at hfallback
    exact hfallback ▸ Value.isWritable_absent
  | some raw =>
    obtain ⟨w, hw, rfl⟩ := (Field.fill_of_some hlookup).1 hc
    obtain rfl : w = v := Option.some.inj hv
    rw [Field.convert] at hw
    rcases hnative raw hlookup with ⟨rfl, hn⟩ | hraw
    · rw [convert_absent _ hn (TypeExpr.isNothing_of_isPlainlyBound hplain)] at hw
      exact Converted.pure_result_eq_ok.1 hw ▸ Value.isWritable_absent
    · rw [convert_eq_base_of_present _ (TypeExpr.not_isUnion_of_isPlainlyBound hplain)
        hraw.isAbsent] at hw
      exact isWritable_of_convert _ _ hwritten hraw hw

/-- So the record can be written that is built from the fields. -/
theorem isWritable_of_cells {r : RecordDescriptor} {converts nilable lenient : Bool} {h : Headers}
    (hfields : ∀ f ∈ fields, f.isWritten head.kind = true) (hkeys : (fields.map Field.key).Nodup)
    (hds : r.Describes head converts fields)
    (ha : r.assemble h nilable lenient = .ok (some entries))
    (hcells : FilledFrom head entries fields cells) :
    (head.build (.ofFields cells)).IsWritable := by
  refine RecordHead.isWritable_build fun e he => ?_
  obtain ⟨c, hc, he⟩ := List.mem_filterMap.1 he
  obtain ⟨v, hv, rfl⟩ := Option.map_eq_some_iff.1 he
  obtain ⟨f, hf, hfill⟩ := exists_of_forall₂ hcells hc
  obtain ⟨d, -, hd⟩ := exists_of_forall₂ hds.flip hf
  have hkey : ∀ f ∈ fields, (f.boundAlias? head.kind).getD f.name = f.key := fun f hf => by
    have hwritten := hfields f hf
    rw [Field.isWritten, Bool.and_eq_true, Bool.and_eq_true] at hwritten
    exact of_decide_eq_true hwritten.1.1
  exact isWritable_of_fill (hfields f hf) (Field.describe_eq_ok hd).1
    (fun v hv => native_of_assemble hds hkey hkeys ha hf hv) hfill hv

end Record

namespace Parameter

variable {convert : Bool} {name : String} {slot : Nat} {declared : TypeExpr}
  {given : Option Marker} {p : Parameter} {h : Headers} {lenient : Bool} {v w : Value}

/-- What a native value is finished to can be written. -/
theorem isWritable_of_finish_native (ht : p.type.base.isWritten = true)
    (hnotes : p.notes.isEmpty = true ∨ p.type.base.isPlain = true) (hv : IsNative p.type.base v)
    (hw : p.finish v = .ok w) : w.IsWritable := by
  have hunion : p.type.base.isUnion = false := TypeExpr.not_isUnion_of_isWritten ht
  obtain ⟨x, hx, hw⟩ := finish_eq_ok hw
  rw [convert_eq_base_of_present _ hunion hv.isAbsent] at hx
  rcases hw with ⟨-, rfl⟩ | ⟨⟨hne, -⟩, hw⟩
  · exact isWritable_of_convert _ _ ht hv hx
  · have hplain := hnotes.resolve_left fun h => hne (List.isEmpty_iff.1 h)
    have hbase : p.type.stripOptional.base = p.type.base := TypeExpr.base_stripOptional hunion
    have hx : IsNative p.type.base x := by
      generalize p.type.base = t at hplain hv hx
      cases t with
      | plain q => exact isNative_of_convert_plain hv hx
      | _ => cases hplain
    rw [convert_eq_base_of_present _ (hbase ▸ hunion) hx.isAbsent, hbase] at hw
    exact isWritable_of_convert _ _ ht hx hw

theorem isWritten_of_isNative (hp : p.isWritten = true) (hv : IsNative p.type.base v) :
    p.type.base.isWritten = true ∧ (p.notes.isEmpty = true ∨ p.type.base.isPlain = true) := by
  rw [isWritten] at hp
  split at hp
  · rename_i hb
    rw [hb] at hv
    cases hv with
    | scalar ht _ => cases ht
  · rwa [Bool.and_eq_true, Bool.or_eq_true] at hp

/-- What a parameter is bound to can be written. -/
theorem isWritable_of_bind (hp : ofType convert name slot declared given = .ok p)
    (hwritten : p.isWritten = true) (hw : p.bind h lenient = .ok w) : w.IsWritable := by
  rw [bind_eq_source] at hw
  split at hw
  · cases hw
  · exact Except.ok.inj hw ▸ Value.isWritable_absent
  · rename_i v hv
    cases isSource_of_source hp hv with
    | native hv =>
      obtain ⟨ht, hnotes⟩ := isWritten_of_isNative hwritten hv
      exact isWritable_of_finish_native ht hnotes hv hw
    | nothing hn => exact eq_of_finish_absent hn (base_of_ofType hp).2 hw ▸ Value.isWritable_absent
    | assembled ht hr ha =>
      rw [isWritten, ht] at hwritten
      simp only [Bool.and_eq_true] at hwritten
      obtain ⟨⟨hnotes, hfields⟩, hkeys⟩ := hwritten
      obtain ⟨cells, hcells, ⟨-, rfl⟩ | ⟨hagain, -⟩⟩ := cells_of_finish_dict ht hw
      · have hfields := List.all_eq_true.1 hfields
        exact isWritable_of_cells hfields (of_decide_eq_true hkeys) hr ha hcells
      · rw [convertsAgain, hnotes, Bool.not_true, Bool.and_false] at hagain
        cases hagain

end Parameter

namespace Demo

variable {d : Demo} {convert : Bool} {b : Binder} {h : Headers} {lenient : Bool}

/-- Everything can be written that the parameters of the demo handlers are bound to. -/
theorem bindingSet_isWritten (d : Demo) (convert : Bool) :
    ((d.handler.bindingSet convert).toOption.any fun s => s.params.all Parameter.isWritten) =
      true := by
  cases d <;> cases convert <;> decide +kernel

/-- The arguments of a demo handler can be written. -/
theorem isWritable_of_bind (hb : Binder.ofHandler convert d.handler = .ok b)
    {arguments : Entries Value} (hbind : b.bind h lenient = .ok arguments) :
    ∀ e ∈ arguments, e.2.IsWritable := by
  obtain ⟨s, hs, hset⟩ := bind_eq_ok.1 hb
  obtain rfl : ⟨d.handler, s⟩ = b := Except.ok.inj hset
  have hwritten := bindingSet_isWritten d convert
  rw [hs, Except.toOption, Option.any_some] at hwritten
  have hlaid := Handler.isLaidOut_of_bindingSet hs
  have hnames : (d.handler.params.map (·.1)).Nodup := by cases d <;> decide
  have hpaths := Binder.pathsAgree_of_isLaidOut (b := ⟨d.handler, s⟩) hlaid
    (hlaid.names ▸ Handler.nodup_boundPlaces hnames) h lenient
  intro e he
  obtain ⟨p, hp, -, hvalue⟩ := exists_of_forall₂ (hpaths.arguments arguments hbind).2 he
  obtain ⟨place, -, hplace⟩ := exists_of_forall₂ hlaid.declared hp
  exact Parameter.isWritable_of_bind hplace.ofType (List.all_eq_true.1 hwritten p hp) hvalue

end Demo

/-! ## Answers -/

namespace Service

variable {s : Service} {d : Demo} {lenient : Bool} {r : Request}

/-- What a request with these headers is answered by a demo handler with this binder. -/
inductive IsAnswer (d : Demo) (b : Binder) (h : Headers) (lenient : Bool) : Response → Prop
  /-- The headers are bound: the answer is what the handler makes of its arguments, and can be
      written. -/
  | bound {arguments : Entries Value} (hbind : b.bind h lenient = .ok arguments)
    (hwritable : ∀ e ∈ arguments, e.2.IsWritable) :
    IsAnswer d b h lenient ⟨200, .document (d.answer arguments)⟩
  /-- The headers are not bound: the answer is the body of the failure. -/
  | failed {f : Failure} (hbind : b.bind h lenient = .error (.failure f)) (hf : f.IsCoherent) :
    IsAnswer d b h lenient ⟨400, .document (.ofTexts f.body)⟩

/-- A request with an address is answered. -/
theorem exists_answer (hs : s.HasBinders) (d : Demo) (hr : r.addressError = none) (lenient : Bool) :
    ∃ response, (s.answer d r lenient).2 = .ok response ∧
      IsAnswer d (s.binder d) r.headers lenient response := by
  cases hbind : (s.binder d).bind r.headers lenient with
  | ok arguments =>
    rw [answer_of_ok hbind]
    exact ⟨_, rfl, .bound hbind (Demo.isWritable_of_bind (hs d) hbind)⟩
  | error e =>
    obtain ⟨f, rfl, hf⟩ := Demo.bind_error (hs d) hbind
    rw [answer_of_failure hbind, hr]
    exact ⟨_, rfl, .failed hbind hf⟩

/-- Whatever is requested, only the counters change. -/
theorem respond_fst (s : Service) (r : Request) (lenient : Bool) :
    ∃ m, (s.respond r lenient).1 = { s with metrics := m } := by
  have hobserve (reason : String) (n : Nat) :
      ∃ m, s.observe reason n = { s with metrics := m } := by
    rw [observe]
    split
    · exact ⟨_, rfl⟩
    · exact ⟨s.metrics, rfl⟩
  unfold respond
  split
  · split <;> exact ⟨s.metrics, rfl⟩
  · split
    · exact ⟨s.metrics, rfl⟩
    · split
      · unfold answer
        dsimp only
        split
        · exact hobserve _ _
        · split <;> exact hobserve _ _
        · exact ⟨s.metrics, rfl⟩
      · exact ⟨s.metrics, rfl⟩
      · exact ⟨s.metrics, rfl⟩

/-- So the binders and the settings stay the same over a run of any requests. -/
theorem respondAll_eq (s : Service) (run : List Arrival) :
    ∃ m, s.respondAll run = { s with metrics := m } := by
  induction run generalizing s with
  | nil => exact ⟨s.metrics, rfl⟩
  | cons a run ih =>
    obtain ⟨m, hm⟩ := s.respond_fst a.request a.lenient
    obtain ⟨m', hm'⟩ := ih { s with metrics := m }
    refine ⟨m', ?_⟩
    rw [respondAll, List.foldl_cons, hm]
    exact hm'

/-- Under all settings and policies, and after any run of requests, a request to a demo handler is
    answered, if it has an address. -/
theorem respondAll_answers (settings : Settings) (run : List Arrival) (a : Arrival) {d : Demo}
    (hd : a.request.demo? = some d) (haddress : a.request.addressError = none) :
    ∃ s b response, start settings = .ok s ∧
      Binder.ofHandler settings.convertUnderscores d.handler = .ok b ∧
      ((s.respondAll run).respond a.request a.lenient).2 = .ok response ∧
      IsAnswer d b a.request.headers a.lenient response := by
  obtain ⟨s, hstart, rfl, -, hs⟩ := exists_start settings
  obtain ⟨m, hrun⟩ := s.respondAll_eq run
  have hbinder (d : Demo) : ({ s with metrics := m } : Service).binder d = s.binder d := by
    cases d <;> rfl
  have hbinders : ({ s with metrics := m } : Service).HasBinders := fun d =>
    (hs d).trans (congrArg Except.ok (hbinder d).symm)
  obtain ⟨response, hresponse, hanswer⟩ := exists_answer hbinders d haddress a.lenient
  rw [hbinder d] at hanswer
  exact ⟨s, s.binder d, response, hstart, hs d, by rw [hrun, respond_of_demo hd, hresponse], hanswer⟩

/-- After a request for the counters, a trace with a long identifier of a span is answered. -/
theorem respondAll_answers_trace :
    let headers : Headers :=
      ⟨[("x-trace-id", "t"), ("x-span-id", "-12345678901234567890"), ("host", "[")]⟩
    let a : Arrival := ⟨{ path := "/trace", headers := headers }, false⟩
    a.request.demo? = some .trace ∧ a.request.addressError = none ∧ ∃ s b response,
      start {} = .ok s ∧ Binder.ofHandler true Demo.trace.handler = .ok b ∧
      ((s.respondAll [⟨{ path := "/metrics" }, true⟩]).respond a.request a.lenient).2 =
        .ok response ∧
      IsAnswer .trace b headers false response := by
  intro headers a
  exact ⟨rfl, rfl, respondAll_answers {} [⟨{ path := "/metrics" }, true⟩] a rfl rfl⟩

end Service

end TypedHeaders
