import TypedHeaders.Demo
import TypedHeaders.Proofs.Binding
import TypedHeaders.Proofs.Declaration
import TypedHeaders.Proofs.Populate
import TypedHeaders.Proofs.Soundness

/-!
# Bound values inhabit the declared types

A parameter that is made from a declaration is only bound to values that inhabit
the declared type, and to nothing only if it is nilable
(`Parameter.inhabits_of_bind`). What is cast from texts is genuine, so that the
conversion is sound for it; and so is what the conversion gives, so that the
second one, under the notes, is sound as well. Instances are not converted again.

In a feed that was bound, the slots of the parameter therefore hold such a value
and the flag (`populate_inhabits`).
-/

namespace TypedHeaders

/-! ## Cast values -/

/-- Texts are cast to genuine values. -/
theorem genuine_of_castTexts {tag : Tag} {isArray : Bool} {first : String} {rest : List String}
    {v : Value} (hv : castTexts tag isArray first rest = .ok v) : v.Genuine := by
  unfold castTexts at hv
  split at hv
  · obtain ⟨as, -, rfl⟩ := map_eq_ok.1 hv
    refine .collection fun x hx => ?_
    obtain ⟨a, -, rfl⟩ := List.mem_map.1 hx
    exact .atom a
  · obtain ⟨a, -, rfl⟩ := map_eq_ok.1 hv
    exact .atom a

theorem FieldDescriptor.genuine_of_read {d : FieldDescriptor} {h : Headers} {lenient : Bool}
    {v : Value} (hv : d.read h lenient = .ok (some v)) : v.Genuine := by
  rw [read_eq] at hv
  split at hv
  · cases hv
  · cases hv
    exact .atom _
  · cases hv
  · split at hv
    · rename_i hcast
      cases hv
      exact genuine_of_castTexts hcast
    · cases hv

theorem mem_of_mem_put {α : Type} {key : String} {v : α} {entries : Entries α} {e : String × α}
    (he : e ∈ Entries.put key v entries) : e = (key, v) ∨ e ∈ entries := by
  induction entries with
  | nil => exact .inl (List.mem_singleton.1 he)
  | cons f entries ih =>
    rw [Entries.put] at he
    split at he
    · exact (List.mem_cons.1 he).imp_right (List.mem_cons_of_mem f)
    · rcases List.mem_cons.1 he with rfl | he
      · exact .inr List.mem_cons_self
      · exact (ih he).imp_right (List.mem_cons_of_mem f)

/-- A record is assembled from genuine values. -/
theorem genuine_of_assembleFields {h : Headers} {nilable lenient : Bool}
    {assembled entries : Entries Value} {ds : List FieldDescriptor}
    (hassembled : ∀ e ∈ assembled, e.2.Genuine)
    (ha : assembleFields h nilable lenient assembled ds = .ok (some entries)) :
    ∀ e ∈ entries, e.2.Genuine := by
  induction ds generalizing assembled with
  | nil => cases ha; exact hassembled
  | cons d ds ih =>
    obtain ⟨v, hv, ha⟩ := assembleFields_cons_eq_some.1 ha
    refine ih (fun e he => ?_) ha
    rcases mem_of_mem_put he with rfl | he
    · exact d.genuine_of_read hv
    · exact hassembled e he

/-! ## Finished values -/

namespace Parameter

variable {p : Parameter} {v w : Value}

/-- What is finished for a scalar or an array inhabits its type, under the notes. -/
theorem inhabits_of_finish (ht : p.type.base.IsPlainlyBound) (hv : v.Genuine)
    (hw : p.finish v = .ok w) :
    Inhabits p.type (constraintsOf p.notes) w ∧ (w = .absent → p.type.isNilable = true) := by
  have hunion := TypeExpr.not_isUnion_of_isPlainlyBound ht
  obtain ⟨x, hx, hw⟩ := finish_eq_ok hw
  obtain ⟨hinhabits, hnilable⟩ := inhabits_of_convert ht hv hx
  rcases hw with ⟨hnotes | rfl, rfl⟩ | ⟨-, hw⟩
  · rw [hnotes]
    exact ⟨hinhabits, hnilable⟩
  · have hb := TypeExpr.isNothing_of_isPlainlyBound ht
    exact ⟨inhabits_absent (hnilable rfl) hb, hnilable⟩
  · -- The second conversion is one of a value of the type, and to a type with the same base.
    have ht' : p.type.stripOptional.base.IsPlainlyBound := by
      rw [TypeExpr.base_stripOptional hunion]
      exact ht
    obtain ⟨hinhabits, hnilable⟩ := inhabits_of_convert ht' hinhabits.genuine hw
    exact ⟨inhabits_of_stripOptional (TypeExpr.isUnion_stripOptional hunion) hinhabits,
      fun hwa => TypeExpr.isNilable_of_stripOptional ht (hnilable hwa)⟩

/-- What is finished for a record inhabits its type, and is there. -/
theorem inhabits_of_finish_dict {h : RecordHead} {fields : List Field} {entries : Entries Value}
    (ht : p.type.base = .record h fields)
    (hfields : ∀ f ∈ fields, (f.valueType h.kind).base.IsPlainlyBound)
    (hfallback : ∀ f ∈ fields, f.FallbackInhabits h.kind)
    (hentries : ∀ e ∈ entries, e.2.Genuine) (hw : p.finish (.dict entries) = .ok w) :
    Inhabits p.type (constraintsOf p.notes) w ∧ w ≠ .absent := by
  have hunion : p.type.base.isUnion = false := by rw [ht]; rfl
  have hbuild (stored) (hstored : FieldsInhabit h fields stored) :
      Inhabits p.type (constraintsOf p.notes) (h.build stored) ∧ h.build stored ≠ .absent := by
    refine ⟨inhabits_of_base hunion ?_, RecordHead.build_ne_absent⟩
    rw [ht]
    exact .record hstored
  obtain ⟨cells, hcells, hw⟩ := cells_of_finish_dict ht hw
  have hstored := fieldsInhabit_of_fill hfields hfallback hentries hcells
  -- What inhabits the fields is genuine, so that it may be converted again.
  rcases hw with ⟨-, rfl⟩ | ⟨-, cells', hcells', rfl⟩
  · exact hbuild _ hstored
  · exact hbuild _ (fieldsInhabit_of_fill hfields hfallback hstored.genuine hcells')

end Parameter

/-! ## Bound values -/

/-- If the type is a record, then the fallbacks of its fields are values of their types. -/
def TypeExpr.FallbacksInhabit (t : TypeExpr) : Prop :=
  ∀ h fields, t.base = .record h fields → ∀ f ∈ fields, f.FallbackInhabits h.kind

/-- What inhabits the type below the outermost notes, under them, inhabits the type. -/
theorem inhabits_of_target {t : TypeExpr} {v : Value}
    (hv : Inhabits (Parameter.target t) (constraintsOf t.notes) v) : Inhabits t [] v := by
  cases t with
  | annotated t notes =>
    refine .annotated ?_
    rw [List.append_nil]
    exact hv
  | _ => exact hv

namespace Parameter

variable {p : Parameter} {h : Headers} {lenient : Bool} {v : Value}

theorem inhabits_of_bindTexts {tag : Tag} (ht : p.type.base.IsPlainlyBound)
    (hn : p.nilable = p.type.isNilable) (hb : p.bindTexts tag h lenient = .ok v) :
    Inhabits p.type (constraintsOf p.notes) v ∧ (v = .absent → p.type.isNilable = true) := by
  rw [bindTexts_eq] at hb
  split at hb
  · cases hb
  · rename_i hf
    cases hb
    have hnilable : p.type.isNilable = true := hn ▸ Headers.nilable_of_find hf
    exact ⟨inhabits_absent hnilable (TypeExpr.isNothing_of_isPlainlyBound ht), fun _ => hnilable⟩
  · cases hb
  · split at hb
    · rename_i hcast
      exact inhabits_of_finish ht (genuine_of_castTexts hcast) hb
    · cases hb

/-- A parameter that is made from a declaration is bound to values that inhabit the declared type,
    and to nothing only if it is nilable. -/
theorem inhabits_of_bind {convert : Bool} {name : String} {slot : Nat} {declared : TypeExpr}
    {given : Option Marker} (hp : ofType convert name slot declared given = .ok p)
    (hd : declared.FallbacksInhabit) (hb : p.bind h lenient = .ok v) :
    Inhabits declared [] v ∧ (v = .absent → p.nilable = true) := by
  obtain ⟨-, htype, hnotes, hn, hreads⟩ := of_ofType hp
  have hbase : p.type.base = declared.base := by rw [htype, base_target]
  have hnilable : p.nilable = p.type.isNilable := by rw [hn, htype, isNilable_target]
  -- The outermost notes are taken off the declared type, and checked by the second conversion.
  suffices hv : Inhabits p.type (constraintsOf p.notes) v ∧
      (v = .absent → p.type.isNilable = true) by
    rw [← hnilable, htype, hnotes, constraintsOf_remaining] at hv
    exact ⟨inhabits_of_target hv.1, hv.2⟩
  rw [Reads, ← hbase] at hreads
  rcases hreads with ⟨ht, tag, hr | hr⟩ | ⟨converts, r, hr, hds⟩
  · simp only [bind, hr] at hb
    exact inhabits_of_bindTexts ht hnilable hb
  · simp only [bind, hr] at hb
    exact inhabits_of_bindTexts ht hnilable hb
  · obtain ⟨head, fields, ht, hds⟩ := RecordDescriptor.describes_of_ofType hds
    have hfields : ∀ f ∈ fields, (f.valueType head.kind).base.IsPlainlyBound := fun f hf => by
      obtain ⟨d, -, hd⟩ := exists_of_forall₂ hds.flip hf
      exact (Field.describe_eq_ok hd).1
    have hb' : p.type.base.isNothing = false := by rw [ht]; rfl
    rcases of_bind_record hr hnilable hb' hb with ⟨hn, rfl⟩ | ⟨entries, ha, hb⟩
    · exact ⟨inhabits_absent hn hb', fun _ => hn⟩
    · have hentries := genuine_of_assembleFields (fun e he => by cases he) ha
      obtain ⟨hv, hne⟩ := inhabits_of_finish_dict ht hfields
        (hd head fields (hbase ▸ ht)) hentries hb
      exact ⟨hv, fun hva => absurd hva hne⟩

end Parameter

namespace BindingSet

/-- After a set is bound into a feed, the slots of a parameter that is made from a declaration hold
    a value that inhabits the declared type, nothing only if the parameter is nilable, and the flag
    — unless the slots belong to a later parameter, too. -/
theorem populate_inhabits (s : BindingSet) {p : Parameter} {before after : List Parameter}
    (hs : s.params = before ++ p :: after) (hapart : ∀ q ∈ after, p.Apart q)
    {convert : Bool} {name : String} {slot : Int} {declared : TypeExpr} {given : Option Marker}
    (hp : Parameter.declare convert name slot declared given = .ok p)
    (hd : declared.FallbacksInhabit) {h : Headers} {lenient : Bool} {old new : Feed}
    (hnew : s.populate h lenient old = (new, none)) :
    new[p.slot + 1]? = some (.bool true) ∧
      ∃ v, new[p.slot]? = some v ∧ Inhabits declared [] v ∧ (v = .absent → p.nilable = true) := by
  rw [populate, hs] at hnew
  obtain ⟨v, hv, hvalue, hflag⟩ := Feed.slots_of_populate hapart hnew
  exact ⟨hflag, v, hvalue, Parameter.inhabits_of_bind (Parameter.ofType_of_declare hp) hd hv⟩

set_option maxRecDepth 20000 in
/-- A record of a member of an enumeration, and of a text that is not there. -/
theorem populate_inhabits_client :
    let head : RecordHead := { kind := .model, name := "Client" }
    let client : TypeExpr := .record head
      [{ name := "t", type := .enum Demo.tier },
       { name := "r", type := Demo.optionalText, fallback := some .absent }]
    let r : RecordDescriptor :=
      ⟨[⟨"t", "t", .string, false, false⟩, ⟨"r", "r", .string, false, true⟩]⟩
    let p : Parameter := ⟨"c", "c", 0, .record r, client, false, []⟩
    let h : Headers := ⟨[("t", "pro")]⟩
    let new : Feed :=
      [.record head [("t", .member Demo.tier "PRO"), ("r", .absent)], .bool true]
    client.FallbacksInhabit ∧ Parameter.declare true "c" 0 client none = .ok p ∧
      populate { params := [p] } h true (Feed.empty 2) = (new, none) ∧
      new[p.slot + 1]? = some (.bool true) ∧
      ∃ v, new[p.slot]? = some v ∧ Inhabits client [] v ∧ (v = .absent → p.nilable = true) := by
  intro head client r p h new
  have hd : client.FallbacksInhabit := by
    rintro _ _ ⟨⟩ f hf w hw
    rcases List.mem_pair.1 hf with rfl | rfl
    · cases hw
    · cases hw
      exact .nothing rfl
  have hp : Parameter.declare true "c" 0 client none = .ok p := by cbv
  have ht : h.values "t" = .ok ["pro"] := by
    subst h
    rfl
  have hr : h.values "r" = .ok [] := by
    subst h
    rfl
  have hbind : p.bind h true =
      .ok (.record head [("t", .member Demo.tier "PRO"), ("r", .absent)]) := by
    rw [Parameter.bind_of_record rfl]
    simp only [RecordDescriptor.assemble, r, assembleFields_cons, FieldDescriptor.read_eq,
      Headers.find, ht, hr]
    rfl
  have hnew : populate { params := [p] } h true (Feed.empty 2) = (new, none) := by
    rw [populate, Feed.populate_cons_of_ok hbind (by decide)]
    rfl
  have hs : ({ params := [p] } : BindingSet).params = [] ++ p :: [] := rfl
  exact ⟨hd, hp, hnew, populate_inhabits { params := [p] } hs (fun q hq => by cases hq) hp hd hnew⟩

set_option maxRecDepth 20000 in
/-- A note that puts texts into upper case makes a text of a member, which is no member itself. -/
theorem populate_reshapes_member :
    let declared : TypeExpr :=
      .annotated (.enum Demo.tier) [.marker {}, .textRules { toUpper := some true }]
    let p : Parameter := ⟨"t", "t", 0, .scalar .string, .enum Demo.tier, false,
      [.textRules { toUpper := some true }]⟩
    Parameter.declare true "t" 0 declared none = .ok p ∧
      populate { params := [p] } ⟨[("t", "free")]⟩ true (Feed.empty 2) =
        ([.text "FREE", .bool true], none) ∧
      ∀ label, Value.text "FREE" ≠ .member Demo.tier label := by
  intro declared p
  have hvalues : (⟨[("t", "free")]⟩ : Headers).values "t" = .ok ["free"] := by rfl
  have hupper : Text.upperCase "free".toList = "FREE".toList := by rfl
  have hfinish : p.finish (.text "free") =
      .ok (.text (String.ofList (Text.upperCase "free".toList))) := rfl
  have hbind : p.bind ⟨[("t", "free")]⟩ true = .ok (.text "FREE") := by
    change p.bindTexts .string _ true = _
    rw [Parameter.bindTexts_eq, Headers.find, hvalues]
    change p.finish (.text "free") = _
    rw [hfinish, hupper]
    rfl
  refine ⟨by cbv, ?_, fun label h => by cases h⟩
  rw [populate, Feed.populate_cons_of_ok hbind (by decide)]
  rfl

end BindingSet

end TypedHeaders
