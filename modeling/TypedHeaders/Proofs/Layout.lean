import TypedHeaders.Handler
import TypedHeaders.Proofs.Blame
import TypedHeaders.Proofs.Populate

/-!
# The layout of a handler's feed

Every place of a signature owns two slots of the feed, in order, whether it is
bound from a header or not. *Bound places* are those of which the outermost notes
hold a marker (`Handler.boundPlaces`). A binding set is *laid out* by a handler if
it consists of the parameters at the bound places, each with the slots of its
place (`BindingSet.IsLaidOut`).

* `Parameter.exists_declare_iff`: a declared type gives a parameter exactly if it
  is supported and its conversions are built, whatever else is given;
* `Handler.headerParams_eq_mapM`: the parameters of a handler are those that its
  bound places declare, and the first place that declares none is reported;
* `Handler.isLaidOut_of_bindingSet`: the binding set of a handler is laid out;
* `Binder.ofHandler_keepsLayout`: a handler has a binder exactly if each of its
  bound places declares a parameter; the binder never runs out of slots, and
  leaves those of all other places empty.
-/

namespace TypedHeaders

/-! ## Supported types -/

/-- Can a header be bound to the type? Its base is a scalar or an array of scalars, or it is a
    record of such fields. -/
def TypeExpr.IsSupported (t : TypeExpr) : Prop :=
  t.base.IsPlainlyBound ∨ ∃ head fields, t.base = .record head fields ∧
    ∀ f ∈ fields, (f.valueType head.kind).base.IsPlainlyBound

/-- What is bound from one header resolves to a scalar or an array. -/
theorem TypeExpr.resolve_of_isPlainlyBound {t : TypeExpr} (ht : t.base.IsPlainlyBound) :
    ∃ kind tag, t.resolve = .ok ⟨kind, some tag, t.isNilable⟩ ∧ kind ≠ .record := by
  rw [resolve_eq]
  cases hs : t.base.scalarTag? with
  | some tag => exact ⟨.scalar, tag, rfl, by decide⟩
  | none =>
    cases ha : t.base.arrayTag? with
    | some tag => exact ⟨.array, tag, rfl, by decide⟩
    | none =>
      rw [IsPlainlyBound, hs, ha] at ht
      exact ht.elim (fun h => by cases h) fun h => by cases h

/-- A record type resolves to a record. -/
theorem TypeExpr.resolve_of_record {t : TypeExpr} {head : RecordHead} {fields : List Field}
    (ht : t.base = .record head fields) : t.resolve = .ok ⟨.record, none, t.isNilable⟩ := by
  rw [resolve_eq, ht]
  rfl

theorem Field.exists_describe {kind : RecordKind} {f : Field}
    (hf : (f.valueType kind).base.IsPlainlyBound) (converts : Bool) :
    ∃ d, f.describe kind converts = .ok d := by
  obtain ⟨k, tag, hresolve, hk⟩ := TypeExpr.resolve_of_isPlainlyBound (base_declared kind f ▸ hf)
  cases k with
  | record => exact absurd rfl hk
  | scalar | array =>
    refine ⟨_, bind_eq_ok.2 ⟨_, hresolve, rfl⟩⟩

/-- A record of which every field is bound from one header has a descriptor. -/
theorem RecordDescriptor.exists_ofType {head : RecordHead} {fields : List Field}
    (hfields : ∀ f ∈ fields, (f.valueType head.kind).base.IsPlainlyBound) (converts : Bool) :
    ∃ r, RecordDescriptor.ofType converts (.record head fields) = .ok r := by
  have hfield : ∀ f ∈ fields, ∃ d, (f.describe head.kind converts).mapError
      (DescriptorError.ofField head.name f.name) = .ok d := fun f hf => by
    obtain ⟨d, hd⟩ := Field.exists_describe (hfields f hf) converts
    exact ⟨d, mapError_eq_ok.2 hd⟩
  obtain ⟨ds, hds⟩ := exists_mapM_eq_ok hfield
  exact ⟨⟨ds⟩, bind_eq_ok.2 ⟨ds, hds, rfl⟩⟩

namespace Parameter

variable {convert : Bool} {name : String} {slot : Nat} {declared : TypeExpr}
  {given : Option Marker} {p : Parameter}

theorem name_of_ofType (hp : ofType convert name slot declared given = .ok p) : p.name = name := by
  obtain ⟨r, -, hp⟩ := bind_eq_ok.1 hp
  dsimp only at hp
  split at hp
  · rw [← Except.ok.inj hp]
  · rw [← Except.ok.inj hp]
  · obtain ⟨d, -, hp⟩ := bind_eq_ok.1 hp
    rw [← Except.ok.inj hp]

/-- A declared type gives a parameter exactly if it is supported. -/
theorem exists_ofType_iff :
    (∃ p, ofType convert name slot declared given = .ok p) ↔ declared.IsSupported := by
  constructor
  · rintro ⟨p, hp⟩
    obtain ⟨-, -, -, -, ⟨hplain, -⟩ | ⟨converts, r, -, hr⟩⟩ := of_ofType hp
    · exact .inl hplain
    · obtain ⟨head, fields, hbase, hdescribes⟩ := RecordDescriptor.describes_of_ofType hr
      refine .inr ⟨head, fields, hbase, fun f hf => ?_⟩
      obtain ⟨d, -, hd⟩ := exists_of_forall₂ hdescribes.flip hf
      exact (Field.describe_eq_ok hd).1
  · rintro (hplain | ⟨head, fields, hrecord, hfields⟩)
    · rw [← base_target] at hplain
      obtain ⟨kind, tag, hresolve, hk⟩ := TypeExpr.resolve_of_isPlainlyBound hplain
      cases kind with
      | record => exact absurd rfl hk
      | scalar | array => exact ⟨_, bind_eq_ok.2 ⟨_, hresolve, rfl⟩⟩
    · have hbase : (target declared).base = .record head fields := (base_target declared).trans hrecord
      obtain ⟨r, hr⟩ := RecordDescriptor.exists_ofType hfields
        (((given <|> markerOf? declared.notes).getD {}).converts convert)
      rw [← hbase] at hr
      exact ⟨_, bind_eq_ok.2 ⟨_, TypeExpr.resolve_of_record hbase, bind_eq_ok.2 ⟨r, hr, rfl⟩⟩⟩

/-- The conversions of a parameter that is declared with this type are built. -/
def IsBuilt (declared : TypeExpr) : Prop :=
  (target declared).buildError? = none ∧
    (Restriction.mk (target declared).stripOptional (remaining declared.notes)).buildError? = none

theorem buildError?_of_ofType (hp : ofType convert name slot declared given = .ok p) :
    p.buildError? = none ↔ IsBuilt declared := by
  obtain ⟨-, htype, hnotes, -⟩ := of_ofType hp
  rw [buildError?, Option.orElse_eq_none, restriction, htype, hnotes, IsBuilt]

/-- A declared type gives a parameter exactly if it is supported and its conversions are built. -/
theorem exists_declare_iff {slot : Int} (hslot : 0 ≤ slot) :
    (∃ p, declare convert name slot declared given = .ok p) ↔
      declared.IsSupported ∧ IsBuilt declared := by
  simp only [declare_eq_ok]
  constructor
  · rintro ⟨p, hp, -, hbuilt⟩
    exact ⟨exists_ofType_iff.1 ⟨p, hp⟩, (buildError?_of_ofType hp).1 hbuilt⟩
  · rintro ⟨hs, hbuilt⟩
    obtain ⟨p, hp⟩ := exists_ofType_iff.2 hs
    exact ⟨p, hp, hslot, (buildError?_of_ofType hp).2 hbuilt⟩

end Parameter

/-! ## Bound places -/

/-- A place of a signature that is bound from a header. -/
structure Handler.BoundPlace where
  index : Nat
  name : String
  type : TypeExpr

namespace Handler

/-- Do the outermost notes of the type hold a marker? -/
def isMarked (declared : TypeExpr) : Bool := (Parameter.markerOf? declared.notes).isSome

/-- The place with this index, if it is bound from a header. -/
def boundPlace? (param : (String × Option TypeExpr) × Nat) : Option BoundPlace :=
  (param.1.2.filter isMarked).map fun declared => ⟨param.2, param.1.1, declared⟩

/-- The places of a signature that are bound from headers, in order. -/
def boundPlaces (h : Handler) : List BoundPlace := h.params.zipIdx.filterMap boundPlace?

/-- The parameter that the place declares, with the slots of the place. -/
def BoundPlace.declare (convert : Bool) (place : BoundPlace) : Except DeclarationError Parameter :=
  Parameter.declare convert place.name (2 * place.index) place.type none

/-- The parameter is the one that the place declares. -/
def BoundPlace.Declares (convert : Bool) (place : BoundPlace) (p : Parameter) : Prop :=
  place.declare convert = .ok p

/-- The place declares a parameter. -/
def BoundPlace.IsAccepted (convert : Bool) (place : BoundPlace) : Prop :=
  ∃ p, place.Declares convert p

section Places

variable {convert : Bool} {place : BoundPlace} {p : Parameter}

theorem BoundPlace.isAccepted_iff :
    place.IsAccepted convert ↔ place.type.IsSupported ∧ Parameter.IsBuilt place.type :=
  Parameter.exists_declare_iff (by omega)

theorem BoundPlace.Declares.ofType (hp : place.Declares convert p) :
    Parameter.ofType convert place.name (2 * place.index) place.type none = .ok p := by
  have hslot : (2 * (place.index : Int)).toNat = 2 * place.index := by omega
  exact hslot ▸ Parameter.ofType_of_declare hp

theorem BoundPlace.Declares.name (hp : place.Declares convert p) : p.name = place.name :=
  Parameter.name_of_ofType hp.ofType

theorem BoundPlace.Declares.slot (hp : place.Declares convert p) : p.slot = 2 * place.index :=
  (Parameter.of_ofType hp.ofType).1

end Places

variable {convert : Bool} {handler name : String} {declared : Option TypeExpr} {n : Nat}
  {params : List (String × Option TypeExpr)} {ps : List Parameter}

theorem boundPlace?_some {declared : TypeExpr} :
    boundPlace? ((name, some declared), n) =
      if isMarked declared then some ⟨n, name, declared⟩ else none := by
  rw [boundPlace?, Option.filter_some]
  split <;> rfl

/-- What a place declares for a handler, which is named in the error. -/
def BoundPlace.declareFor (convert : Bool) (handler : String) (place : BoundPlace) :
    Except DeclarationError Parameter :=
  (place.declare convert).mapError (.ofHandler handler place.name)

/-- The parameter at a place is the one that it declares, if the place is bound at all. -/
theorem parameterAt_eq :
    parameterAt convert handler n name declared =
      match boundPlace? ((name, declared), n) with
      | some place => (place.declareFor convert handler).map some
      | none => .ok none := by
  cases declared with
  | none => rfl
  | some declared =>
    have hunmarked : (Parameter.markerOf? declared.notes).isNone = !isMarked declared := by
      rw [isMarked, Option.not_isSome]
    rw [parameterAt, boundPlace?_some, hunmarked]
    cases isMarked declared with
    | true =>
      change (Except.map some (Parameter.declare convert name (2 * n) declared none)).mapError _ =
        Except.map some ((Parameter.declare convert name (2 * n) declared none).mapError _)
      cases Parameter.declare convert name (2 * n) declared none <;> rfl
    | false => rfl

/-- The bound parameters are those that the bound places declare, in order. -/
theorem headerParams_eq_mapM :
    headerParams convert handler n params =
      ((params.zipIdx n).filterMap boundPlace?).mapM (BoundPlace.declareFor convert handler) := by
  induction params generalizing n with
  | nil => rfl
  | cons param params ih =>
    obtain ⟨name, declared⟩ := param
    rw [headerParams, parameterAt_eq, ih, List.zipIdx_cons]
    -- A place that is not bound adds no parameter, but the next one is counted after it.
    cases hplace : boundPlace? ((name, declared), n) with
    | none =>
      rw [List.filterMap_cons_none hplace]
      cases List.mapM (BoundPlace.declareFor convert handler) _ <;> rfl
    | some place =>
      rw [List.filterMap_cons_some hplace, List.mapM_cons]
      dsimp only
      cases place.declareFor convert handler with
      | error e => rfl
      | ok p => cases List.mapM (BoundPlace.declareFor convert handler) _ <;> rfl

/-- The bound places are those with a declared type that is marked. -/
theorem mem_boundPlaces_iff {h : Handler} {place : BoundPlace} :
    place ∈ h.boundPlaces ↔
      h.params[place.index]? = some (place.name, some place.type) ∧ isMarked place.type = true := by
  rw [boundPlaces, List.mem_filterMap]
  constructor
  · rintro ⟨⟨⟨name, declared⟩, i⟩, hmem, hplace⟩
    rw [List.mem_zipIdx_iff_getElem?] at hmem
    cases declared with
    | none => cases hplace
    | some declared =>
      rw [boundPlace?_some] at hplace
      split at hplace
      · cases hplace
        exact ⟨hmem, ‹_›⟩
      · cases hplace
  · rintro ⟨hmem, hm⟩
    refine ⟨((place.name, some place.type), place.index), List.mem_zipIdx_iff_getElem?.2 hmem, ?_⟩
    rw [boundPlace?_some, if_pos hm]

theorem index_lt_of_mem {h : Handler} {place : BoundPlace} (hp : place ∈ h.boundPlaces) :
    place.index < h.params.length :=
  (List.getElem?_eq_some_iff.1 (mem_boundPlaces_iff.1 hp).1).1

/-- The bound places come in the order of the signature. -/
theorem boundPlaces_pairwise (h : Handler) :
    h.boundPlaces.Pairwise fun a b => a.index < b.index := by
  have hindices : h.params.zipIdx.Pairwise fun a b => a.2 < b.2 := by
    rw [← List.pairwise_map (f := Prod.snd), List.zipIdx_map_snd]
    exact List.pairwise_lt_range'
  refine List.pairwise_filterMap.2 (hindices.imp fun hab a' ha b' hb => ?_)
  have hindex {param : (String × Option TypeExpr) × Nat} {place : BoundPlace}
      (hp : boundPlace? param = some place) : place.index = param.2 := by
    obtain ⟨declared, -, rfl⟩ := Option.map_eq_some_iff.1 hp
    rfl
  rwa [hindex ha, hindex hb]

end Handler

/-! ## Sets that are laid out -/

/-- The set is laid out by the handler: it consists of the parameters at the bound places, in the
    order of the signature, and each has the slots of its place. -/
structure BindingSet.IsLaidOut (s : BindingSet) (convert : Bool) (h : Handler) : Prop where
  frozen : s.frozen = true
  declared : List.Forall₂ (Handler.BoundPlace.Declares convert) h.boundPlaces s.params
  names : s.params.map (·.name) = h.boundPlaces.map (·.name)
  slots : s.params.map (·.slot) = h.boundPlaces.map (2 * ·.index)
  apart : s.params.Pairwise Parameter.Apart
  feedSize_le : s.feedSize ≤ 2 * h.params.length

namespace Handler

variable {convert : Bool} {h : Handler} {s : BindingSet}

/-- The binding set of a handler is laid out by it. -/
theorem isLaidOut_of_bindingSet (hs : h.bindingSet convert = .ok s) : s.IsLaidOut convert h := by
  obtain ⟨ps, hps, hs⟩ := bind_eq_ok.1 hs
  obtain rfl : BindingSet.freeze { params := ps } = s := Except.ok.inj hs
  rw [headerParams_eq_mapM] at hps
  have hdeclared : List.Forall₂ (BoundPlace.Declares convert) h.boundPlaces ps :=
    (mapM_eq_ok.1 hps).imp fun _ _ => mapError_eq_ok.1
  have hslots : ps.map (·.slot) = h.boundPlaces.map (2 * ·.index) := by
    rw [← List.forall₂_eq_eq_eq, List.forall₂_map_left_iff, List.forall₂_map_right_iff]
    exact hdeclared.flip.imp fun _ _ => BoundPlace.Declares.slot
  refine ⟨rfl, hdeclared, ?_, hslots, ?_, ?_⟩
  · rw [← List.forall₂_eq_eq_eq, List.forall₂_map_left_iff, List.forall₂_map_right_iff]
    exact hdeclared.flip.imp fun _ _ => BoundPlace.Declares.name
  · -- The slots of a place end before those of the next one begin.
    have hpairs : (ps.map (·.slot)).Pairwise fun a b => a + 1 < b := by
      rw [hslots, List.pairwise_map]
      exact h.boundPlaces_pairwise.imp fun hab => by omega
    exact (List.pairwise_map.1 hpairs).imp fun hab => Parameter.apart_iff.2 (.inl hab)
  · refine BindingSet.feedSize_le fun p hp => ?_
    obtain ⟨place, hplace, hp⟩ := exists_of_forall₂ hdeclared hp
    have := index_lt_of_mem hplace
    have := hp.slot
    omega

/-- A handler has a binding set exactly if all of its bound places declare parameters. -/
theorem exists_bindingSet_iff :
    (∃ s, h.bindingSet convert = .ok s) ↔ ∀ place ∈ h.boundPlaces, place.IsAccepted convert := by
  constructor
  · rintro ⟨s, hs⟩ place hplace
    obtain ⟨p, -, hp⟩ := exists_of_forall₂ (isLaidOut_of_bindingSet hs).declared.flip hplace
    exact ⟨p, hp⟩
  · intro hplaces
    have hdeclares : ∀ place ∈ h.boundPlaces, ∃ p, place.declareFor convert h.name = .ok p :=
      fun place hplace => (hplaces place hplace).imp fun _ => mapError_eq_ok.2
    obtain ⟨ps, hps⟩ := exists_mapM_eq_ok hdeclares
    exact ⟨_, bind_eq_ok.2 ⟨ps, headerParams_eq_mapM.trans hps, rfl⟩⟩

/-- The first bound place that declares no parameter is reported. -/
theorem first_of_bindingSet_error {e : DeclarationError} (he : h.bindingSet convert = .error e) :
    ∃ before place after cause, h.boundPlaces = before ++ place :: after ∧
      (∀ q ∈ before, q.IsAccepted convert) ∧ place.declare convert = .error cause ∧
      e = cause.ofHandler h.name place.name := by
  have he := (bind_eq_error.1 he).resolve_right fun ⟨_, _, hpure⟩ => by cases hpure
  rw [headerParams_eq_mapM] at he
  obtain ⟨before, place, after, hplaces, hbefore, hplace⟩ := exists_first_error he
  obtain ⟨cause, hcause, rfl⟩ := mapError_eq_error.1 hplace
  exact ⟨before, place, after, cause, hplaces,
    fun q hq => (hbefore q hq).imp fun _ => mapError_eq_ok.1, hcause, rfl⟩

end Handler

/-! ## Binders -/

namespace BindingSet.IsLaidOut

variable {convert : Bool} {h : Handler} {s : BindingSet} {headers : Headers} {lenient : Bool}

/-- A parameter of the set owns the slots of a bound place. -/
theorem exists_place (hs : s.IsLaidOut convert h) {p : Parameter} (hp : p ∈ s.params) :
    ∃ place ∈ h.boundPlaces, p.slot = 2 * place.index := by
  obtain ⟨place, hplace, hp⟩ := exists_of_forall₂ hs.declared hp
  exact ⟨place, hplace, hp.slot⟩

/-- A place that is not bound owns none of the slots of the set. -/
theorem not_owns (hs : s.IsLaidOut convert h) {i : Nat} {param : String × Option TypeExpr}
    (hi : h.params[i]? = some param) (hunbound : param.2.any Handler.isMarked = false) :
    ∀ p ∈ s.params, ¬p.Owns (2 * i) ∧ ¬p.Owns (2 * i + 1) := by
  intro p hp
  obtain ⟨place, hplace, hslot⟩ := hs.exists_place hp
  obtain ⟨hparam, hmarked⟩ := Handler.mem_boundPlaces_iff.1 hplace
  have hne : place.index ≠ i := by
    rintro rfl
    rw [hi] at hparam
    obtain rfl := Option.some.inj hparam
    rw [Option.any_some, hmarked] at hunbound
    cases hunbound
  -- Different places have slots of their own: two for each.
  simp only [Parameter.Owns]
  omega

theorem slot_lt (hs : s.IsLaidOut convert h) {p : Parameter} (hp : p ∈ s.params) :
    p.slot + 1 < (Feed.empty (2 * h.params.length)).length := by
  have := s.slot_le_feedSize hp
  have := hs.feedSize_le
  rw [Feed.empty, List.length_replicate]
  omega

end BindingSet.IsLaidOut

namespace Binder

/-- The binder keeps to the layout of its handler's feed: it never lacks a slot, the feed has two
    slots for every place of the signature, and those of places that are not bound stay empty. -/
structure KeepsLayout (b : Binder) (h : Headers) (lenient : Bool) : Prop where
  slots : ∀ e, b.populate h lenient = .error e → e ≠ .noSlotToWrite ∧ e ≠ .noSlotToRead
  length : ∀ feed, b.populate h lenient = .ok feed → feed.length = 2 * b.handler.params.length
  unbound : ∀ feed, b.populate h lenient = .ok feed →
    ∀ i param, b.handler.params[i]? = some param → param.2.any Handler.isMarked = false →
      feed[2 * i]? = some .absent ∧ feed[2 * i + 1]? = some .absent

variable {convert : Bool} {b : Binder} {h : Headers} {lenient : Bool}

theorem populate_eq_ok {feed : Feed} :
    b.populate h lenient = .ok feed ↔
      b.set.populate h lenient (Feed.empty b.feedSize) = (feed, none) := by
  rw [populate]
  split
  · rename_i hfeed
    rw [hfeed, Except.ok.injEq, Prod.mk.injEq, and_iff_left rfl]
  · rename_i hfeed
    simp [hfeed]

theorem populate_eq_error {e : BindError} :
    b.populate h lenient = .error e ↔
      ∃ feed, b.set.populate h lenient (Feed.empty b.feedSize) = (feed, some e) := by
  rw [populate]
  split
  · rename_i hfeed
    simp [hfeed]
  · rename_i hfeed
    simp [hfeed]

theorem keepsLayout (hb : b.set.IsLaidOut convert b.handler) (h : Headers) (lenient : Bool) :
    b.KeepsLayout h lenient where
  slots e he := by
    obtain ⟨feed, hfeed⟩ := populate_eq_error.1 he
    obtain ⟨before, p, after, -, -, hp⟩ :=
      Feed.of_populate_error (fun p hp => hb.slot_lt hp) hfeed
    exact Parameter.bind_error_ne_noSlot hp
  length feed hfeed := by
    rw [Feed.length_of_populate (populate_eq_ok.1 hfeed), Feed.empty, List.length_replicate,
      feedSize]
  unbound feed hfeed i param hi hunbound := by
    have hlength : i < b.handler.params.length := (List.getElem?_eq_some_iff.1 hi).1
    have hempty {j : Nat} (hj : j < 2 * b.handler.params.length)
        (hfree : ∀ p ∈ b.set.params, ¬p.Owns j) : feed[j]? = some .absent := by
      rw [Feed.populate_frame (populate_eq_ok.1 hfeed) hfree, Feed.empty, feedSize,
        List.getElem?_replicate_of_lt hj]
    have hfree := hb.not_owns hi hunbound
    exact ⟨hempty (by omega) fun p hp => (hfree p hp).1,
      hempty (by omega) fun p hp => (hfree p hp).2⟩

/-- Reading the arguments from the feed adds no error of its own. -/
theorem bind_error_iff (hb : b.set.IsLaidOut convert b.handler) {e : BindError} :
    b.bind h lenient = .error e ↔ b.populate h lenient = .error e := by
  rw [bind, bind_eq_error]
  refine or_iff_left ?_
  rintro ⟨feed, hfeed, he⟩
  have hlength : feed.length = (Feed.empty (2 * b.handler.params.length)).length :=
    Feed.length_of_populate (populate_eq_ok.1 hfeed)
  obtain ⟨entries, hentries⟩ : ∃ entries, feed.arguments b.set.params = .ok entries :=
    Feed.exists_arguments fun p hp => hlength ▸ hb.slot_lt hp
  rw [BindingSet.arguments, hentries] at he
  cases he

/-- If the parameters of a binder can only fail, then so can the binder. -/
theorem exists_fails_of_bind_error (hb : b.set.IsLaidOut convert b.handler)
    (hp : ∀ p ∈ b.set.params, p.OnlyFails) {e : BindError} (he : b.bind h lenient = .error e) :
    ∃ f, e = .failure f ∧ ∃ p ∈ b.set.params, p.Fails h lenient f := by
  obtain ⟨feed, hfeed⟩ := populate_eq_error.1 ((bind_error_iff hb).1 he)
  obtain ⟨before, p, after, hs, -, hbind⟩ :=
    Feed.of_populate_error (fun p hp => hb.slot_lt hp) hfeed
  have hmem : p ∈ b.set.params := hs ▸ List.mem_append_right before List.mem_cons_self
  obtain ⟨f, rfl, hf⟩ := (hp p hmem).of_bind_error hbind
  exact ⟨f, rfl, p, hmem, hf⟩

/-- A handler has a binder exactly if each of its bound places declares a parameter, and otherwise
    the first one that does not is reported. The set of a binder is laid out by the handler, and
    under all headers the binder keeps to the layout. -/
theorem ofHandler_keepsLayout (convert : Bool) (handler : Handler) :
    ((∃ b, ofHandler convert handler = .ok b) ↔
      ∀ place ∈ handler.boundPlaces, place.IsAccepted convert) ∧
    (∀ e, ofHandler convert handler = .error e →
      ∃ before place after cause, handler.boundPlaces = before ++ place :: after ∧
        (∀ q ∈ before, q.IsAccepted convert) ∧ place.declare convert = .error cause ∧
        e = cause.ofHandler handler.name place.name) ∧
    ∀ b, ofHandler convert handler = .ok b →
      b.handler = handler ∧ b.set.IsLaidOut convert handler ∧ ∀ h lenient, b.KeepsLayout h lenient := by
  refine ⟨?_, fun e he => ?_, fun b hb => ?_⟩
  · rw [← Handler.exists_bindingSet_iff]
    constructor
    · rintro ⟨b, hb⟩
      obtain ⟨s, hs, -⟩ := bind_eq_ok.1 hb
      exact ⟨s, hs⟩
    · rintro ⟨s, hs⟩
      exact ⟨_, bind_eq_ok.2 ⟨s, hs, rfl⟩⟩
  · refine Handler.first_of_bindingSet_error ?_
    exact (bind_eq_error.1 he).resolve_right fun ⟨_, _, hpure⟩ => by cases hpure
  · obtain ⟨s, hs, hb⟩ := bind_eq_ok.1 hb
    obtain rfl : ⟨handler, s⟩ = b := Except.ok.inj hb
    have hlaid := Handler.isLaidOut_of_bindingSet hs
    exact ⟨rfl, hlaid, keepsLayout hlaid⟩

/-- Of five places, the second and the last one are bound: the others have no type, no marker, or
    one that is not among the outermost notes. Infinity cannot be allowed for a text, so that the
    handler has no binder if that is asked of the second place. -/
theorem ofHandler_keepsLayout_mixed :
    let marked (t : TypeExpr) : TypeExpr := t.annotate [.remark "bound", .marker {}]
    let span : TypeExpr := .record { kind := .model, name := "Span" }
      [{ name := "n", type := .plain .int }, { name := "ts", type := .collection .set (.plain .str) }]
    let handler (user : TypeExpr) : Handler :=
      { name := "mixed"
        params :=
          [("request", none), ("user", some (marked user)), ("count", some (.plain .int)),
            ("note", some (.optional (marked (.plain .str)))),
            ("span", some (marked (.optional span)))] }
    let unbounded := (TypeExpr.plain .str).annotate [.limits { allowInfNan := some true }]
    (∃ b, ofHandler true (handler (.plain .str)) = .ok b ∧ b.handler = handler (.plain .str) ∧
      b.set.params.map (fun p => (p.name, p.slot)) = [("user", 2), ("span", 8)] ∧
      b.set.IsLaidOut true (handler (.plain .str)) ∧ ∀ h lenient, b.KeepsLayout h lenient) ∧
    ¬∃ b, ofHandler true (handler unbounded) = .ok b := by
  intro marked span handler unbounded
  obtain ⟨b, hb⟩ : ∃ b, ofHandler true (handler (.plain .str)) = .ok b := ⟨_, rfl⟩
  obtain ⟨hhandler, hlaid, hkeeps⟩ := (ofHandler_keepsLayout true _).2.2 b hb
  refine ⟨⟨b, hb, hhandler, ?_, hlaid, hkeeps⟩, fun hbuilt => ?_⟩
  · cases hb
    rfl
  · have haccepted := (ofHandler_keepsLayout true _).1.1 hbuilt
      ⟨1, "user", marked unbounded⟩ (show _ ∈ [_, _] from List.mem_cons_self)
    obtain ⟨-, -, hnotes⟩ := Handler.BoundPlace.isAccepted_iff.1 haccepted
    cases hnotes

end Binder

end TypedHeaders
