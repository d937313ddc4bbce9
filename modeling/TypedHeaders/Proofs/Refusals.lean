import TypedHeaders.Proofs.Collections
import TypedHeaders.Proofs.Fields

/-!
# What a conversion is refused for

A conversion is refused for a problem with the value, or because a constraint
does not fit the value: it is misused, or its arithmetic has a fault. The latter
only happens where constraints are checked one by one, after the conversion to
the type. A type *checks everything* that is asked of its values if the conversion
to it, and to all types within it, checks every constraint itself
(`TypeExpr.checksAll`). It is then *tame*: there are only problems
(`isTame_convert`).
-/

namespace TypedHeaders

/-! ## Types that check everything -/

namespace TypeExpr

mutual

/-- Does the conversion to the type check these constraints, and all that are stated within the
    type, itself? -/
def checksAll : TypeExpr → List Constraint → Bool
  | .plain p, cs => cs.all (TypeExpr.plain p).checks
  | .enum e, cs => cs.all (TypeExpr.enum e).checks
  | .literal values, cs => cs.all (TypeExpr.literal values).checks
  | .collection form item, cs =>
    cs.all (TypeExpr.collection form item).checks && checksAll item []
  | .fixedTuple ts, cs => cs.all (TypeExpr.fixedTuple ts).checks && membersCheckAll ts []
  | .mapping key value, cs =>
    cs.all (TypeExpr.mapping key value).checks && checksAll key [] && checksAll value []
  | .union style ts, cs =>
    if (ts.countP fun t => !t.isNothing) = 1 then membersCheckAll ts cs
    else cs.all (TypeExpr.union style ts).checks && membersCheckAll ts []
  | .annotated t notes, cs => checksAll t (constraintsOf notes ++ cs)
  | .presence _ t, cs => checksAll t cs
  | .record h fields, cs => cs.all (TypeExpr.record h fields).checks && fieldsCheckAll h.kind fields

/-- Do all of the types, that of nothing apart, check the constraints themselves? -/
def membersCheckAll : List TypeExpr → List Constraint → Bool
  | [], _ => true
  | t :: ts, cs => (t.isNothing || checksAll t cs) && membersCheckAll ts cs

/-- Do the types of all fields check the constraints on the fields themselves? -/
def fieldsCheckAll (kind : RecordKind) : List Field → Bool
  | [] => true
  | ⟨_, t, _, _, _, limits⟩ :: fields =>
    let own := (limits.map Limits.constraints).getD []
    (match kind, t with
    | .model, .annotated base notes => checksAll base (own ++ constraintsOf notes)
    | _, t => checksAll t own) && fieldsCheckAll kind fields

end

end TypeExpr

/-! ## Tame conversions -/

namespace Converted

variable {α β : Type} {a : Converted α} {f : α → Converted β}

/-- If there is no result, then because of a problem with the value. -/
def IsTame (a : Converted α) : Prop := ∀ e, a = .error e → e.isFinal = false

namespace IsTame

theorem ok {x : Fitted α} : IsTame (.ok x : Converted α) := fun _ he => by cases he

theorem problem {p : Problem} : IsTame (.error (.problem p) : Converted α) := fun _ he => by
  cases he
  rfl

/-- A tame conversion has a result or a problem. -/
theorem cases (ha : a.IsTame) : (∃ x, a = .ok x) ∨ ∃ p, a = .error (.problem p) := by
  match a, ha with
  | .ok x, _ => exact .inl ⟨x, rfl⟩
  | .error (.problem p), _ => exact .inr ⟨p, rfl⟩
  | .error (.misuse m), ha => exact absurd (ha _ rfl) (by simp [Rejection.isFinal])
  | .error (.fault f), ha => exact absurd (ha _ rfl) (by simp [Rejection.isFinal])

theorem pure {x : α} : (pure x : Converted α).IsTame := ok

theorem refuse {r : Reason} : (refuse r : Converted α).IsTame := problem

theorem ofReason {c : Closeness} {r : Except Reason α} : (ofReason c r).IsTame := by
  cases r with
  | ok x => exact ok
  | error r => exact refuse

theorem bind (ha : a.IsTame) (hf : ∀ x, (f x).IsTame) : (a >>= f).IsTame := by
  obtain ⟨x, rfl⟩ | ⟨p, rfl⟩ := ha.cases
  · change (Converted.bind (.ok x) f).IsTame
    rw [Converted.bind]
    obtain ⟨y, hy⟩ | ⟨p, hp⟩ := (hf x.value).cases
    · rw [hy]
      exact ok
    · rw [hp]
      exact problem
  · exact problem

theorem both {b : Converted β} (ha : a.IsTame) (hb : b.IsTame) : (both a b).IsTame := by
  obtain ⟨x, rfl⟩ | ⟨p, rfl⟩ := ha.cases <;> obtain ⟨y, rfl⟩ | ⟨q, rfl⟩ := hb.cases
  · exact ok
  · exact problem
  · exact problem
  · exact problem

theorem inside {part : String} (ha : a.IsTame) : (a.inside part).IsTame := by
  obtain ⟨x, rfl⟩ | ⟨p, rfl⟩ := ha.cases
  · exact ok
  · exact problem

theorem atMost {c : Closeness} (ha : a.IsTame) : (a.atMost c).IsTame := by
  obtain ⟨x, rfl⟩ | ⟨p, rfl⟩ := ha.cases
  · exact ok
  · exact problem

theorem all {as : List (Converted α)} (has : ∀ a ∈ as, a.IsTame) : (all as).IsTame := by
  induction as with
  | nil => exact pure
  | cons a as ih =>
    have hrest := ih fun b hb => has b (List.mem_cons_of_mem a hb)
    exact bind (both (has a List.mem_cons_self) hrest) fun _ => pure

theorem placed {as : List (Converted α)} (has : ∀ a ∈ as, a.IsTame) :
    ∀ a ∈ placed as, a.IsTame := by
  intro a ha
  obtain ⟨⟨b, i⟩, hb, rfl⟩ := List.mem_map.1 ha
  exact inside (has b ((List.mem_zipIdx' hb).2 ▸ List.getElem_mem _))

end IsTame

end Converted

open Converted

/-! ## Gathering items -/

section Gathering

variable {l : Limits} {kind : CollectionKind} {items : List (Converted Value)}
  {problem : Option Problem}

theorem isTame_gatherList (hitems : ∀ a ∈ items, a.IsTame) : (gatherList l items).IsTame := by
  have hall : (do
      let items ← Converted.all items
      .ofReason .exact (l.checkSize (.collection .list) true items.length)
      return items : Converted (List Value)).IsTame :=
    (IsTame.all hitems).bind fun _ => IsTame.ofReason.bind fun _ => .pure
  unfold gatherList
  dsimp only
  split
  · split
    · -- No item ended the conversion at once: it would not be tame.
      split
      · rename_i e hfound
        obtain ⟨a, ha, hfinal⟩ := List.exists_of_findSome?_eq_some hfound
        obtain ⟨x, rfl⟩ | ⟨p, rfl⟩ := (hitems a (List.mem_of_mem_take ha)).cases
        · cases hfinal
        · cases hfinal
      · exact .refuse
    · exact hall
  · exact hall

theorem isTame_gatherTuple {size : Nat} {places : Option Nat} {kept : Fitted (List Value)}
    (hitems : ∀ a ∈ items, a.IsTame) :
    (gatherTuple l size places kept problem items).IsTame := by
  induction items generalizing kept problem with
  | nil =>
    rw [gatherTuple_nil]
    split
    · exact .refuse
    · split
      · exact .refuse
      · cases problem with
        | some p => exact .problem
        | none => exact .ok
  | cons a items ih =>
    have hrest : ∀ b ∈ items, b.IsTame := fun b hb => hitems b (List.mem_cons_of_mem a hb)
    obtain ⟨v, rfl⟩ | ⟨p, rfl⟩ := (hitems a List.mem_cons_self).cases
    · rw [gatherTuple_ok]
      split
      · exact .refuse
      · exact ih hrest
    · rw [gatherTuple_problem]
      exact ih hrest

theorem isTame_gatherDistinct {limit : Option Nat} {kept : Fitted (List Value)}
    {placed : List (Nat × Converted Value)} (hplaced : ∀ a ∈ placed, a.2.IsTame) :
    (gatherDistinct kind limit kept problem placed).IsTame := by
  induction placed generalizing kept problem with
  | nil =>
    rw [gatherDistinct_nil]
    cases problem with
    | some p => exact .problem
    | none => exact .ok
  | cons a placed ih =>
    have hrest : ∀ b ∈ placed, b.2.IsTame := fun b hb => hplaced b (List.mem_cons_of_mem a hb)
    obtain ⟨place, a⟩ := a
    obtain ⟨v, hv⟩ | ⟨p, hp⟩ := (hplaced (place, a) List.mem_cons_self).cases
    · obtain rfl : a = .ok v := hv
      rw [gatherDistinct_ok]
      split
      · exact ih hrest
      · split
        · exact .refuse
        · exact ih hrest
    · obtain rfl : a = .error (.problem p) := hp
      rw [gatherDistinct_problem]
      exact ih hrest

theorem isTame_gather (hitems : ∀ a ∈ items, a.IsTame) : (gather kind l items).IsTame := by
  have hplaced := IsTame.placed hitems
  have hset (kind : CollectionKind) : (gatherSet kind l (Converted.placed items)).IsTame := by
    refine IsTame.bind (isTame_gatherDistinct fun a ha => ?_) fun _ =>
      IsTame.ofReason.bind fun _ => .pure
    obtain ⟨⟨b, i⟩, hb, rfl⟩ := List.mem_map.1 ha
    exact hplaced b ((List.mem_zipIdx' hb).2 ▸ List.getElem_mem _)
  cases kind with
  | list => exact (isTame_gatherList hplaced).bind fun _ => .pure
  | tuple => exact (isTame_gatherTuple hplaced).bind fun _ => .pure
  | set => exact (hset .set).bind fun _ => .pure
  | frozenset => exact (hset .frozenset).bind fun _ => .pure

theorem isTame_gatherAnything {values : List Value} : (gatherAnything l values).IsTame :=
  IsTame.ofReason.bind fun _ => .pure

theorem gatherEntries_nil {limit : Option Nat} {kept : Fitted (Entries Value)} :
    gatherEntries limit kept problem [] =
      match problem with
      | some p => .error (.problem p)
      | none => .ok kept := rfl

theorem gatherEntries_problem {limit : Option Nat} {kept : Fitted (Entries Value)} {p : Problem}
    {entries : List (Converted (String × Value))} :
    gatherEntries limit kept problem (.error (.problem p) :: entries) =
      gatherEntries limit kept (problem <|> some p) entries := rfl

theorem gatherEntries_ok {limit : Option Nat} {kept : Fitted (Entries Value)} {key : String}
    {v : Value} {fit : Fit} {entries : List (Converted (String × Value))} :
    gatherEntries limit kept problem (.ok ⟨(key, v), fit⟩ :: entries) =
      if limit.any (· < (Entries.put key v kept.value).length) then
        .refuse (.tooManyItems .dictionary (limit.getD 0) none)
      else
        gatherEntries limit ⟨Entries.put key v kept.value, kept.fit.both fit⟩ problem entries := rfl

theorem isTame_gatherEntries {limit : Option Nat} {kept : Fitted (Entries Value)}
    {entries : List (Converted (String × Value))} (hentries : ∀ a ∈ entries, a.IsTame) :
    (gatherEntries limit kept problem entries).IsTame := by
  induction entries generalizing kept problem with
  | nil =>
    rw [gatherEntries_nil]
    cases problem with
    | some p => exact .problem
    | none => exact .ok
  | cons a entries ih =>
    have hrest : ∀ b ∈ entries, b.IsTame := fun b hb => hentries b (List.mem_cons_of_mem a hb)
    obtain ⟨⟨⟨key, v⟩, fit⟩, rfl⟩ | ⟨p, rfl⟩ := (hentries a List.mem_cons_self).cases
    · rw [gatherEntries_ok]
      split
      · exact .refuse
      · exact ih hrest
    · rw [gatherEntries_problem]
      exact ih hrest

theorem isTame_gatherDictionary {entries : List (Converted (String × Value))}
    (hentries : ∀ a ∈ entries, a.IsTame) : (gatherDictionary l entries).IsTame :=
  (isTame_gatherEntries hentries).bind fun _ => IsTame.ofReason.bind fun _ => .pure

end Gathering

/-! ## Plain types and choices -/

theorem isTame_itemsFor {kind : CollectionKind} {v : Value} : (itemsFor kind v).IsTame := by
  unfold itemsFor
  split
  · exact .ofReason
  · exact .refuse

theorem isTame_convertAnything {v : Value} : (convertAnything v).IsTame := .ofReason

namespace Scalar

variable {a : Atom} {v : Value}

theorem isTame_toText : (toText v).IsTame := by
  unfold toText
  split
  · exact .pure
  · exact .ofReason
  · exact .ofReason
  · exact .refuse

theorem isTame_toBytes : (toBytes v).IsTame := by
  unfold toBytes
  split
  · exact .pure
  · split
    · exact .ofReason
    · exact .refuse

theorem isTame_integerOfAtom : (integerOfAtom a).IsTame := by
  unfold integerOfAtom
  split
  · exact .pure
  · exact .ofReason
  · exact .ofReason
  · exact .ofReason
  · exact .ofReason
  · exact .refuse

theorem isTame_toInteger : (toInteger v).IsTame := by
  unfold toInteger
  split
  · exact isTame_integerOfAtom
  · exact .ofReason
  · split
    · exact isTame_integerOfAtom.atMost
    · exact .refuse

theorem isTame_binaryOfAtom : (binaryOfAtom a).IsTame := by
  unfold binaryOfAtom
  split
  · exact .pure
  · dsimp only
    split
    · exact .ofReason
    · exact .refuse
  · exact .ofReason
  · exact .ofReason
  · exact .ofReason
  · exact .refuse

theorem isTame_toBinary : (toBinary v).IsTame := by
  unfold toBinary
  split
  · exact isTame_binaryOfAtom
  · exact .ofReason
  · split
    · exact isTame_binaryOfAtom.atMost
    · exact .refuse

theorem isTame_decimalOfAtom : (decimalOfAtom a).IsTame := by
  unfold decimalOfAtom
  split
  · exact .pure
  · exact .ofReason
  · split
    · exact .ofReason
    · exact .refuse
  · exact .ofReason
  · exact .refuse
  · exact .refuse

theorem isTame_toDecimal : (toDecimal v).IsTame := by
  unfold toDecimal
  split
  · exact isTame_decimalOfAtom
  · exact .refuse

theorem isTame_toBool : (toBool v).IsTame := by
  unfold toBool
  split
  · exact .pure
  · exact .ofReason
  · split
    · exact .ofReason
    · exact .ofReason
    · exact .ofReason
    · exact .refuse

end Scalar

namespace Enumeration

variable {e : Enumeration} {a : Atom}

theorem isTame_refusal : IsTame (.error e.refusal : Converted Value) := .problem

theorem isTame_find : (e.find a).IsTame := by
  unfold find
  split
  · exact .ofReason
  · exact isTame_refusal

theorem isTame_findInteger {n : Int} : (e.findInteger n).IsTame := by
  unfold findInteger
  split
  · exact .refuse
  · exact isTame_find

theorem isTame_findAtom : (e.findAtom a).IsTame := by
  unfold findAtom
  split
  · split
    · exact isTame_findInteger
    · exact isTame_find
  · split
    · exact isTame_findInteger
    · exact isTame_find
  · split
    · exact isTame_find
    · exact isTame_find
  · exact isTame_findInteger
  · exact isTame_find
  · exact isTame_find

theorem isTame_convert {v : Value} : (e.convert v).IsTame := by
  unfold Enumeration.convert
  split
  · split
    · exact .pure
    · split
      · exact isTame_findAtom
      · exact isTame_refusal
  · exact isTame_findAtom
  · rename_i hmember hatom
    cases v with
    | member e' label => exact (hmember e' label rfl).elim
    | atom a => exact (hatom a rfl).elim
    | _ => exact isTame_refusal

end Enumeration

/-- A plain type checks its limits together with the conversion, which never faults. -/
theorem isTame_convertPlain {p : PlainType} {l : Limits} {v : Value} :
    (convertPlain p l v).IsTame := by
  have hanything (values : List Value) : ∀ a ∈ values.map convertAnything, a.IsTame :=
    fun a ha => by
      obtain ⟨w, -, rfl⟩ := List.mem_map.1 ha
      exact isTame_convertAnything
  cases p with
  | str => exact Scalar.isTame_toText.bind fun _ => IsTame.ofReason.bind fun _ => .pure
  | int => exact Scalar.isTame_toInteger.bind fun _ => IsTame.ofReason.bind fun _ => .pure
  | float => exact Scalar.isTame_toBinary.bind fun _ => IsTame.ofReason.bind fun _ => .pure
  | decimal => exact Scalar.isTame_toDecimal.bind fun _ => IsTame.ofReason.bind fun _ => .pure
  | bool => exact Scalar.isTame_toBool.bind fun _ => .pure
  | bytes => exact Scalar.isTame_toBytes.bind fun _ => IsTame.ofReason.bind fun _ => .pure
  | dict =>
    cases v with
    | dict entries =>
      refine isTame_gatherDictionary fun a ha => ?_
      obtain ⟨⟨key, w⟩, -, rfl⟩ := List.mem_map.1 ha
      exact isTame_convertAnything.bind fun _ => .pure
    | _ => exact .refuse
  | nothing =>
    rw [convertPlain]
    split
    · exact .pure
    · exact .refuse
  | list | genericList => exact isTame_itemsFor.bind fun _ => isTame_gatherAnything
  | tuple | set => exact isTame_itemsFor.bind fun values => isTame_gather (hanything values)
  | any | object => exact isTame_convertAnything

theorem isTame_convertSequence {v : Value} : (convertSequence v).IsTame := by
  unfold convertSequence
  split
  · exact .refuse
  · exact .pure

/-! ## Declared types -/

section Union

variable {best : Option (Fitted Value)} {problem : Option Problem}
  {results : List (String × Converted Value)} {label : String}

theorem chooseBest_nil :
    chooseBest best problem [] =
      match best, problem with
      | some v, _ => .ok v
      | none, some p => .error (.problem p)
      | none, none => .refuse .notNothing := rfl

theorem chooseBest_of_best {v : Fitted Value} (hv : v.fit.isBest = true) :
    chooseBest best problem ((label, .ok v) :: results) = .ok v := if_pos hv

theorem chooseBest_of_not_best {v : Fitted Value} (hv : ¬v.fit.isBest = true) :
    chooseBest best problem ((label, .ok v) :: results) =
      chooseBest (some (betterOf best v)) problem results := if_neg hv

theorem chooseBest_problem {p : Problem} :
    chooseBest best problem ((label, .error (.problem p)) :: results) =
      chooseBest best (problem <|> some (p.inside label)) results := rfl

/-- The best result of tame conversions is tame. -/
theorem isTame_chooseBest (hresults : ∀ a ∈ results, a.2.IsTame) :
    (chooseBest best problem results).IsTame := by
  induction results generalizing best problem with
  | nil =>
    rw [chooseBest_nil]
    cases best with
    | some v => exact .ok
    | none =>
      cases problem with
      | some p => exact .problem
      | none => exact .refuse
  | cons a results ih =>
    have hrest : ∀ b ∈ results, b.2.IsTame := fun b hb => hresults b (List.mem_cons_of_mem a hb)
    obtain ⟨label, a⟩ := a
    obtain ⟨v, hv⟩ | ⟨p, hp⟩ := (hresults (label, a) List.mem_cons_self).cases
    · obtain rfl : a = .ok v := hv
      by_cases hbest : v.fit.isBest = true
      · rw [chooseBest_of_best hbest]
        exact .ok
      · rw [chooseBest_of_not_best hbest]
        exact ih hrest
    · obtain rfl : a = .error (.problem p) := hp
      rw [chooseBest_problem]
      exact ih hrest

end Union

/-- If the type checks all constraints itself, then none is left to be checked after the
    conversion. -/
theorem TypeExpr.isTame_within {t : TypeExpr} {cs : List Constraint} {own : Limits → Converted Value}
    (hcs : cs.all t.checks = true) (hown : ∀ l, (own l).IsTame) : (t.within cs own).IsTame := by
  have hspan : cs.span t.checks = (cs, []) := by
    rw [List.span_eq_takeWhile_dropWhile, List.takeWhile_eq_self_iff.2 (List.all_eq_true.1 hcs),
      List.dropWhile_eq_nil_iff.2 (List.all_eq_true.1 hcs)]
  rw [within, hspan]
  exact (hown _).bind fun _ => .ok

/-- A field is filled tamely if its value is converted so. -/
theorem Field.isTame_fill {h : RecordHead} {entries : Entries Value} {f : Field}
    (hf : ∀ v, (f.convert h.kind v).IsTame) : (f.fill h entries).IsTame := by
  unfold fill
  split
  · exact ((hf _).bind fun _ => .pure).inside
  · split
    · exact .pure
    · exact IsTame.refuse.inside

theorem TypeExpr.checksAll_of_isNothing {t : TypeExpr} (ht : t.isNothing = true) :
    t.checksAll [] = true := by
  cases t with
  | plain p => rfl
  | _ => cases ht

theorem TypeExpr.fieldsCheckAll_cons {kind : RecordKind} {f : Field} {fields : List Field} :
    fieldsCheckAll kind (f :: fields) =
      (checksAll (f.valueType kind) (f.constraints kind) && fieldsCheckAll kind fields) := by
  obtain ⟨name, t, aliasName, validationAlias, fallback, limits⟩ := f
  cases kind <;> cases t <;> rfl

theorem convert_record {h : RecordHead} {fields : List Field} {cs : List Constraint} {v : Value} :
    convert (.record h fields) cs v = TypeExpr.within (.record h fields) cs fun _ =>
      if h.isInstance v then pure v
      else
        match v with
        | .dict entries => do h.finish (← convertFields h entries fields)
        | _ => .refuse h.refusal := by
  cases v <;> rfl

mutual

/-- A conversion to a type that checks everything itself is tame. -/
theorem isTame_convert : (t : TypeExpr) → (cs : List Constraint) → (v : Value) →
    t.checksAll cs = true → (convert t cs v).IsTame
  | .plain p, cs, v, ht => by
    rw [convert]
    exact TypeExpr.isTame_within ht fun _ => isTame_convertPlain
  | .enum e, cs, v, ht => by
    rw [convert]
    exact TypeExpr.isTame_within ht fun _ => e.isTame_convert
  | .literal values, cs, v, ht => by
    rw [convert]
    exact TypeExpr.isTame_within ht fun _ => .ofReason
  | .collection form item, cs, v, ht => by
    rw [TypeExpr.checksAll, Bool.and_eq_true] at ht
    have hitems (items : List Value) : ∀ a ∈ items.map fun w => convert item [] w, a.IsTame :=
      fun a ha => by
        obtain ⟨w, -, rfl⟩ := List.mem_map.1 ha
        exact isTame_convert item [] w ht.2
    rw [convert]
    refine TypeExpr.isTame_within ht.1 fun l => ?_
    -- A sequence is converted as a whole; all other forms gather their items.
    cases form with
    | sequence =>
      dsimp only
      split
      · exact isTame_convertSequence
      · exact IsTame.ofReason.bind fun _ =>
          (IsTame.all (IsTame.placed (hitems _))).bind fun _ => .pure
    | _ =>
      refine isTame_itemsFor.bind fun items => ?_
      split
      · exact isTame_gatherAnything
      · exact isTame_gather (hitems items)
  | .fixedTuple ts, cs, v, ht => by
    rw [TypeExpr.checksAll, Bool.and_eq_true] at ht
    rw [convert]
    exact TypeExpr.isTame_within ht.1 fun l => isTame_itemsFor.bind fun items =>
      (isTame_gatherTuple (IsTame.placed (isTame_convertPlaces ts items ht.2))).bind fun _ => .pure
  | .mapping key value, cs, v, ht => by
    rw [TypeExpr.checksAll, Bool.and_eq_true, Bool.and_eq_true] at ht
    rw [convert]
    refine TypeExpr.isTame_within ht.1.1 fun l => ?_
    split
    · refine isTame_gatherDictionary fun a ha => ?_
      obtain ⟨⟨k, w⟩, -, rfl⟩ := List.mem_map.1 ha
      exact (IsTame.both (isTame_convert key [] (.text k) ht.1.2).inside
        (isTame_convert value [] w ht.2)).inside.bind fun _ => .pure
    · exact .refuse
  | .union style ts, cs, v, ht => by
    rw [TypeExpr.checksAll] at ht
    rw [convert]
    split
    · exact .pure
    · -- Beside nothing there is one member to convert to, or the best of several is taken.
      split at ht
      · rename_i hone
        rw [if_pos hone]
        exact isTame_convertOther ts cs v ht
      · rename_i hone
        rw [Bool.and_eq_true] at ht
        rw [if_neg hone]
        exact TypeExpr.isTame_within ht.1 fun _ => isTame_chooseBest (isTame_convertEach ts v ht.2)
  | .annotated t notes, cs, v, ht => by
    rw [convert]
    exact isTame_convert t _ v ht
  | .presence required t, cs, v, ht => by
    rw [convert]
    exact isTame_convert t cs v ht
  | .record h fields, cs, v, ht => by
    rw [TypeExpr.checksAll, Bool.and_eq_true] at ht
    rw [convert_record]
    refine TypeExpr.isTame_within ht.1 fun _ => ?_
    split
    · exact .pure
    · cases v with
      | dict entries => exact (isTame_convertFields h entries fields ht.2).bind fun _ => .ok
      | _ => exact .refuse

theorem isTame_convertOther : (ts : List TypeExpr) → (cs : List Constraint) → (v : Value) →
    TypeExpr.membersCheckAll ts cs = true → (convertOther ts cs v).IsTame
  | [], _, _, _ => by
    rw [convertOther]
    exact .refuse
  | t :: ts, cs, v, hts => by
    rw [TypeExpr.membersCheckAll, Bool.and_eq_true, Bool.or_eq_true] at hts
    rw [convertOther]
    split
    · exact isTame_convertOther ts cs v hts.2
    · rename_i hn
      exact isTame_convert t cs v (hts.1.resolve_left hn)

theorem isTame_convertEach : (ts : List TypeExpr) → (v : Value) →
    TypeExpr.membersCheckAll ts [] = true → ∀ a ∈ convertEach ts v, a.2.IsTame
  | [], _, _ => fun _ ha => by cases ha
  | t :: ts, v, hts => by
    rw [TypeExpr.membersCheckAll, Bool.and_eq_true, Bool.or_eq_true] at hts
    rw [convertEach]
    split
    · exact isTame_convertEach ts v hts.2
    · rename_i hn
      intro a ha
      rcases List.mem_cons.1 ha with rfl | ha
      · exact isTame_convert t [] v (hts.1.resolve_left hn)
      · exact isTame_convertEach ts v hts.2 a ha

theorem isTame_convertPlaces : (ts : List TypeExpr) → (vs : List Value) →
    TypeExpr.membersCheckAll ts [] = true → ∀ a ∈ convertPlaces ts vs, a.IsTame
  | [], _, _ => fun _ ha => by
    rw [convertPlaces] at ha
    cases ha
  | t :: ts, [], hts => fun a ha => by
    rw [TypeExpr.membersCheckAll, Bool.and_eq_true] at hts
    rw [convertPlaces] at ha
    rcases List.mem_cons.1 ha with rfl | ha
    · exact .refuse
    · exact isTame_convertPlaces ts [] hts.2 a ha
  | t :: ts, v :: vs, hts => fun a ha => by
    rw [TypeExpr.membersCheckAll, Bool.and_eq_true, Bool.or_eq_true] at hts
    rw [convertPlaces] at ha
    rcases List.mem_cons.1 ha with rfl | ha
    · exact isTame_convert t [] v (hts.1.elim TypeExpr.checksAll_of_isNothing id)
    · exact isTame_convertPlaces ts vs hts.2 a ha

theorem isTame_convertFields (h : RecordHead) (entries : Entries Value) : (fields : List Field) →
    TypeExpr.fieldsCheckAll h.kind fields = true → (convertFields h entries fields).IsTame
  | [], _ => .pure
  | ⟨name, t, aliasName, validationAlias, fallback, limits⟩ :: fields, hfields => by
    rw [TypeExpr.fieldsCheckAll_cons, Bool.and_eq_true] at hfields
    rw [convertFields_cons]
    refine (IsTame.both (Field.isTame_fill fun v => ?_)
      (isTame_convertFields h entries fields hfields.2)).bind fun _ => .pure
    cases hk : h.kind with
    | model =>
      rw [hk] at hfields
      cases t with
      | annotated base notes => exact isTame_convert base _ v hfields.1
      | _ => exact isTame_convert _ _ v hfields.1
    | dataclass | typedDict =>
      rw [hk] at hfields
      exact isTame_convert t _ v hfields.1

end

end TypedHeaders
