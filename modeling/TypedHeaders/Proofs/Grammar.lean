import TypedHeaders.Proofs.Resolution
import Mathlib.Data.List.Basic

/-!
# The grammar of supported types

Declared types follow three rules, which the functions that build them keep
(`TypeExpr.IsWellFormed`). Of the types that do, a *grammar* tells which ones a
header can be bound to, and how (`TypeExpr.Denotes`):

* a *scalar* is one of five plain types, an enumeration of texts or integers, or
  a literal type of which all values are texts, integers, or truth values;
* a *base* is a scalar, a collection of scalars that may have notes around them,
  or a record;
* a type denotes what its base does, with notes around it; and so does the union
  of such a type with nothing, with notes around it, which is nilable.

Resolving a type decides this grammar: it accepts what the grammar has, with the
kind, the tag and the nilability that the grammar says, and it refuses every other
type (`TypeExpr.resolve_iff_denotes`).
-/

namespace TypedHeaders

/-- A value that a literal type may list: a text, an integer, a truth value, or nothing. -/
def Atom.isLiteral : Atom → Bool
  | .absent | .bool _ | .text _ | .number (.int _) => true
  | .number (.float _) | .number (.decimal _) => false

namespace TypeExpr

/-! ## Well-formed types -/

/-- The members of a union: at least two, none of which is a union itself, and no two the same. -/
structure AreMembers (ts : List TypeExpr) : Prop where
  several : 2 ≤ ts.length
  flat : ∀ t ∈ ts, t.isUnion = false
  distinct : ts.Pairwise fun t u => t.same u = false

/-- Has the type notes around it? -/
def isAnnotated : TypeExpr → Bool
  | .annotated _ _ => true
  | _ => false

/-- The type, and every type within it, follows the rules: unions have members as they should, no
    notes stand directly around notes, and literal types list nothing but what they may. -/
inductive IsWellFormed : TypeExpr → Prop
  | plain (p : PlainType) : IsWellFormed (.plain p)
  | enum (e : Enumeration) : IsWellFormed (.enum e)
  | literal {values : List Atom} (hvalues : ∀ v ∈ values, v.isLiteral = true) :
    IsWellFormed (.literal values)
  | collection {form : CollectionForm} {item : TypeExpr} (hitem : IsWellFormed item) :
    IsWellFormed (.collection form item)
  | fixedTuple {items : List TypeExpr} (hitems : ∀ t ∈ items, IsWellFormed t) :
    IsWellFormed (.fixedTuple items)
  | mapping {key value : TypeExpr} (hkey : IsWellFormed key) (hvalue : IsWellFormed value) :
    IsWellFormed (.mapping key value)
  | union {style : UnionStyle} {ts : List TypeExpr} (hmembers : AreMembers ts)
    (hts : ∀ t ∈ ts, IsWellFormed t) : IsWellFormed (.union style ts)
  | annotated {t : TypeExpr} {notes : List Note} (hflat : t.isAnnotated = false)
    (ht : IsWellFormed t) : IsWellFormed (.annotated t notes)
  | presence {required : Bool} {item : TypeExpr} (hitem : IsWellFormed item) :
    IsWellFormed (.presence required item)
  | record {head : RecordHead} {fields : List Field} (hfields : ∀ f ∈ fields, IsWellFormed f.type) :
    IsWellFormed (.record head fields)

/-! ## The builders keep the rules -/

section Distinct

variable {kept ts : List TypeExpr}

/-- The types without those that an earlier one, or one of `kept`, is the same as. -/
theorem distinct_invariant (hkept : kept.Pairwise fun t u => t.same u = false) :
    let all := ts.foldl (fun kept t => if kept.any (·.same t) then kept else kept ++ [t]) kept
    (all.Pairwise fun t u => t.same u = false) ∧ (∀ t ∈ all, t ∈ kept ∨ t ∈ ts) ∧
      kept.length ≤ all.length := by
  induction ts generalizing kept with
  | nil => exact ⟨hkept, fun t ht => .inl ht, Nat.le_refl _⟩
  | cons t ts ih =>
    simp only [List.foldl_cons]
    by_cases hsame : kept.any (·.same t) = true
    · rw [if_pos hsame]
      obtain ⟨hdistinct, hmem, hlength⟩ := ih hkept
      exact ⟨hdistinct, fun u hu => (hmem u hu).imp_right (List.mem_cons_of_mem t), hlength⟩
    · rw [if_neg hsame]
      have hadded : (kept ++ [t]).Pairwise fun t u => t.same u = false := by
        refine List.pairwise_append.2 ⟨hkept, List.pairwise_singleton _ _, fun u hu v hv => ?_⟩
        rw [List.mem_singleton.1 hv]
        exact Bool.eq_false_iff.2 fun h => hsame (List.any_eq_true.2 ⟨u, hu, h⟩)
      obtain ⟨hdistinct, hmem, hlength⟩ := ih hadded
      refine ⟨hdistinct, fun u hu => ?_, ?_⟩
      · rcases hmem u hu with hu | hu
        · rcases List.mem_append.1 hu with hu | hu
          · exact .inl hu
          · exact .inr (List.mem_singleton.1 hu ▸ List.mem_cons_self)
        · exact .inr (List.mem_cons_of_mem t hu)
      · rw [List.length_append] at hlength
        omega

theorem pairwise_distinct : (distinct ts).Pairwise fun t u => t.same u = false :=
  (distinct_invariant .nil).1

theorem mem_of_mem_distinct {t : TypeExpr} (ht : t ∈ distinct ts) : t ∈ ts :=
  ((distinct_invariant .nil).2.1 t ht).resolve_left List.not_mem_nil

theorem distinct_ne_nil (hts : ts ≠ []) : distinct ts ≠ [] := by
  obtain ⟨t, ts, rfl⟩ := List.exists_cons_of_ne_nil hts
  have hlength := (@distinct_invariant [t] ts (List.pairwise_singleton _ t)).2.2
  intro hnil
  rw [distinct, List.foldl_cons, List.any_nil, if_neg Bool.false_ne_true, List.nil_append] at hnil
  rw [hnil] at hlength
  exact absurd hlength (by simp)

end Distinct

namespace IsWellFormed

variable {t u : TypeExpr} {ts : List TypeExpr}

/-- The members of a well-formed type are well formed, and none of them is a union. -/
theorem of_mem_members (ht : t.IsWellFormed) (hu : u ∈ t.members) :
    u.IsWellFormed ∧ u.isUnion = false := by
  cases ht with
  | union hmembers hts => exact ⟨hts u hu, hmembers.flat u hu⟩
  | plain p => exact List.mem_singleton.1 hu ▸ ⟨.plain p, rfl⟩
  | enum e => exact List.mem_singleton.1 hu ▸ ⟨.enum e, rfl⟩
  | literal h => exact List.mem_singleton.1 hu ▸ ⟨.literal h, rfl⟩
  | collection h => exact List.mem_singleton.1 hu ▸ ⟨.collection h, rfl⟩
  | fixedTuple h => exact List.mem_singleton.1 hu ▸ ⟨.fixedTuple h, rfl⟩
  | mapping hk hv => exact List.mem_singleton.1 hu ▸ ⟨.mapping hk hv, rfl⟩
  | annotated hflat h => exact List.mem_singleton.1 hu ▸ ⟨.annotated hflat h, rfl⟩
  | presence h => exact List.mem_singleton.1 hu ▸ ⟨.presence h, rfl⟩
  | record h => exact List.mem_singleton.1 hu ▸ ⟨.record h, rfl⟩

theorem members_ne_nil (ht : t.IsWellFormed) : t.members ≠ [] := by
  cases ht with
  | union hmembers _ =>
    exact List.ne_nil_of_length_pos (Nat.lt_of_lt_of_le Nat.two_pos hmembers.several)
  | _ => exact List.cons_ne_nil _ _

/-- A union of well-formed types is well formed. -/
theorem unionOf (style : UnionStyle) (hne : ts ≠ []) (hts : ∀ t ∈ ts, t.IsWellFormed) :
    (unionOf style ts).IsWellFormed := by
  have hflat : ts.flatMap members ≠ [] := by
    obtain ⟨t, ts, rfl⟩ := List.exists_cons_of_ne_nil hne
    rw [List.flatMap_cons]
    exact List.append_ne_nil_of_left_ne_nil (hts t List.mem_cons_self).members_ne_nil _
  have hmember : ∀ u ∈ distinct (ts.flatMap members), u.IsWellFormed ∧ u.isUnion = false :=
    fun u hu => by
      obtain ⟨t, ht, hu⟩ := List.mem_flatMap.1 (mem_of_mem_distinct hu)
      exact (hts t ht).of_mem_members hu
  rw [TypeExpr.unionOf]
  split
  · rename_i t hone
    exact (hmember t (hone ▸ List.mem_singleton_self t)).1
  · rename_i hmany
    refine .union ⟨?_, fun t ht => (hmember t ht).2, pairwise_distinct⟩ fun t ht => (hmember t ht).1
    -- There is a member, and there is not just one.
    match hds : distinct (ts.flatMap members) with
    | [] => exact absurd hds (distinct_ne_nil hflat)
    | [t] => exact absurd hds (hmany t)
    | _ :: _ :: _ => simp

theorem optional (ht : t.IsWellFormed) : t.optional.IsWellFormed :=
  unionOf .listed (List.cons_ne_nil _ _) fun u hu => by
    rcases List.mem_pair.1 hu with rfl | rfl
    · exact ht
    · exact .plain _

theorem bar (ht : t.IsWellFormed) (hu : u.IsWellFormed) : (t.bar u).IsWellFormed :=
  unionOf _ (List.cons_ne_nil _ _) fun v hv => by
    rcases List.mem_pair.1 hv with rfl | rfl
    · exact ht
    · exact hu

theorem pipe (hts : ∀ t ∈ ts, t.IsWellFormed) : (pipe ts).IsWellFormed := by
  cases ts with
  | nil => exact .plain _
  | cons t ts =>
    rw [TypeExpr.pipe]
    have ht := hts t List.mem_cons_self
    replace hts : ∀ u ∈ ts, u.IsWellFormed := fun u hu => hts u (List.mem_cons_of_mem t hu)
    induction ts generalizing t with
    | nil => exact ht
    | cons u ts ih =>
      exact ih (t.bar u) (ht.bar (hts u List.mem_cons_self))
        fun v hv => hts v (List.mem_cons_of_mem u hv)

theorem annotate (notes : List Note) (ht : t.IsWellFormed) : (t.annotate notes).IsWellFormed := by
  cases ht with
  | annotated hflat h => exact .annotated hflat h
  | plain p => exact .annotated rfl (.plain p)
  | enum e => exact .annotated rfl (.enum e)
  | literal h => exact .annotated rfl (.literal h)
  | collection h => exact .annotated rfl (.collection h)
  | fixedTuple h => exact .annotated rfl (.fixedTuple h)
  | mapping hk hv => exact .annotated rfl (.mapping hk hv)
  | union hmembers h => exact .annotated rfl (.union hmembers h)
  | presence h => exact .annotated rfl (.presence h)
  | record h => exact .annotated rfl (.record h)

theorem literalOf {values : List Atom} (h : ∀ v ∈ values, v.isLiteral = true) :
    (literalOf values).IsWellFormed :=
  .literal fun v hv => h v (List.mem_eraseDups.1 hv)

end IsWellFormed

/-! ## The grammar -/

/-- A tag and the atoms of a literal type that it stands for. -/
inductive HasTag : Atom → Tag → Prop
  | text (s : String) : HasTag (.text s) .string
  | int (n : Int) : HasTag (.number (.int n)) .int
  | bool (b : Bool) : HasTag (.bool b) .boolean

/-- A type without notes, or the same one with notes around it, in any number of layers. -/
inductive IsNoted : TypeExpr → TypeExpr → Prop
  | bare (t : TypeExpr) : IsNoted t t
  | annotated {t u : TypeExpr} (notes : List Note) (h : IsNoted t u) :
    IsNoted (.annotated t notes) u

/-- The scalars, and their tags. -/
inductive IsScalar : TypeExpr → Tag → Prop
  | str : IsScalar (.plain .str) .string
  | int : IsScalar (.plain .int) .int
  | float : IsScalar (.plain .float) .float
  | decimal : IsScalar (.plain .decimal) .decimal
  | bool : IsScalar (.plain .bool) .boolean
  | textEnum {e : Enumeration} (he : e.base = .text) : IsScalar (.enum e) .string
  | intEnum {e : Enumeration} (he : e.base = .int ∨ e.base = .wholeInt) : IsScalar (.enum e) .int
  | literal {values : List Atom} {tag : Tag} (hne : values ≠ [])
    (hvalues : ∀ v ∈ values, HasTag v tag) : IsScalar (.literal values) tag

/-- The bases, with the kind and the tag that they are bound by. -/
inductive IsBase : TypeExpr → ParamKind → Option Tag → Prop
  | scalar {t : TypeExpr} {tag : Tag} (ht : IsScalar t tag) : IsBase t .scalar (some tag)
  | array {form : CollectionForm} {item t : TypeExpr} {tag : Tag} (hitem : IsNoted item t)
    (ht : IsScalar t tag) : IsBase (.collection form item) .array (some tag)
  | record (head : RecordHead) (fields : List Field) : IsBase (.record head fields) .record none

/-- The types that headers can be bound to, and how. -/
inductive Denotes : TypeExpr → Resolution → Prop
  | base {t b : TypeExpr} {kind : ParamKind} {tag : Option Tag} (ht : IsNoted t b)
    (hb : IsBase b kind tag) : Denotes t ⟨kind, tag, false⟩
  | nilable {t member b : TypeExpr} {style : UnionStyle} {ts : List TypeExpr} {kind : ParamKind}
    {tag : Option Tag} (ht : IsNoted t (.union style ts)) (hts : ts.Perm [member, nothing])
    (hmember : IsNoted member b) (hb : IsBase b kind tag) : Denotes t ⟨kind, tag, true⟩

/-! ## Notes and members -/

theorem isNoted_unwrap : (t : TypeExpr) → IsNoted t t.unwrap
  | .annotated t notes => .annotated notes (isNoted_unwrap t)
  | .plain _ | .enum _ | .literal _ | .collection _ _ | .fixedTuple _ | .mapping _ _ | .union _ _
  | .presence _ _ | .record _ _ => .bare _

theorem IsNoted.unwrap_eq {t u : TypeExpr} (h : IsNoted t u) (hu : u.isAnnotated = false) :
    t.unwrap = u := by
  induction h with
  | bare t =>
    cases t with
    | annotated t notes => cases hu
    | _ => rfl
  | annotated notes _ ih => exact ih hu

theorem isAnnotated_unwrap (t : TypeExpr) : t.unwrap.isAnnotated = false := by
  cases hu : t.unwrap with
  | annotated u notes => exact absurd hu (unwrap_ne_annotated t)
  | _ => rfl

theorem isNothing_iff {t : TypeExpr} : t.isNothing = true ↔ t = nothing := by
  constructor
  · intro h
    unfold isNothing at h
    split at h
    · rfl
    · cases h
  · rintro rfl
    rfl

theorem IsWellFormed.unwrap {t : TypeExpr} (ht : t.IsWellFormed) : t.unwrap.IsWellFormed := by
  induction ht with
  | annotated _ _ ih => exact ih
  | plain p => exact .plain p
  | enum e => exact .enum e
  | literal h => exact .literal h
  | collection h => exact .collection h
  | fixedTuple h => exact .fixedTuple h
  | mapping hk hv => exact .mapping hk hv
  | union hmembers h => exact .union hmembers h
  | presence h => exact .presence h
  | record h => exact .record h

/-- Of types that are no two the same, only one is nothing. -/
theorem filter_isNothing {ts : List TypeExpr} (hts : ts.Pairwise fun t u => t.same u = false)
    (hn : nothing ∈ ts) : ts.filter isNothing = [nothing] := by
  have hnothing : ∀ t ∈ ts.filter isNothing, t = nothing := fun t ht =>
    isNothing_iff.1 (List.mem_filter.1 ht).2
  have hdistinct := hts.filter isNothing
  have hmem : nothing ∈ ts.filter isNothing := List.mem_filter.2 ⟨hn, rfl⟩
  match hns : ts.filter isNothing with
  | [] => rw [hns] at hmem; cases hmem
  | [t] => rw [hnothing t (hns ▸ List.mem_singleton_self t)]
  | t :: u :: us =>
    rw [hns] at hdistinct hnothing
    have hsame := (List.pairwise_cons.1 hdistinct).1 u List.mem_cons_self
    rw [hnothing t List.mem_cons_self, hnothing u (List.mem_cons_of_mem t List.mem_cons_self)]
      at hsame
    cases hsame

/-- Types that are no two the same are nothing, once, and the others. -/
theorem perm_filter_append_nothing {ts : List TypeExpr}
    (hts : ts.Pairwise fun t u => t.same u = false) (hn : nothing ∈ ts) :
    (ts.filter (!·.isNothing) ++ [nothing]).Perm ts := by
  have hperm := List.filter_append_perm (!·.isNothing) ts
  simp only [Bool.not_not] at hperm
  exact filter_isNothing hts hn ▸ hperm

/-- If only one member is not nothing, the other one is. -/
theorem AreMembers.perm_of_filter {ts : List TypeExpr} {m : TypeExpr} (hts : AreMembers ts)
    (hm : ts.filter (!·.isNothing) = [m]) : ts.Perm [m, nothing] := by
  have hn : nothing ∈ ts := by
    by_contra hn
    -- Without nothing, there would be just one member.
    have hall : ts.filter (!·.isNothing) = ts := List.filter_eq_self.2 fun t ht => by
      rw [Bool.not_eq_true', Bool.eq_false_iff]
      exact fun h => hn (isNothing_iff.1 h ▸ ht)
    have hseveral := hts.several
    rw [← hall, hm] at hseveral
    exact absurd hseveral (by simp)
  have hperm := perm_filter_append_nothing hts.distinct hn
  rw [hm] at hperm
  exact hperm.symm

/-! ## Scalars and arrays -/

theorem hasTag_iff {v : Atom} (hv : v.isLiteral = true) {tag : Tag} :
    HasTag v tag ↔ atomTag? v = some tag := by
  constructor
  · intro h
    cases h <;> rfl
  · intro h
    unfold atomTag? at h
    split at h <;> cases h
    · exact .text _
    · exact .bool _
    · exact .int _
    · cases hv
    · cases hv

theorem commonTag?_eq_some_iff {values : List Atom} {tag : Tag} :
    commonTag? values = some tag ↔ values ≠ [] ∧ ∀ v ∈ values, atomTag? v = some tag := by
  cases values with
  | nil => exact ⟨fun h => (by cases h), fun h => absurd rfl h.1⟩
  | cons v vs =>
    rw [commonTag?]
    split
    · rename_i hall
      have hall : ∀ w ∈ vs, atomTag? w = atomTag? v := by simpa using hall
      refine ⟨fun hv => ⟨List.cons_ne_nil _ _, fun w hw => ?_⟩, fun h => h.2 v List.mem_cons_self⟩
      rcases List.mem_cons.1 hw with rfl | hw
      · exact hv
      · rw [hall w hw, hv]
    · rename_i hall
      refine ⟨fun h => (by cases h), fun h => absurd ?_ hall⟩
      rw [List.all_eq_true]
      intro w hw
      rw [h.2 w (List.mem_cons_of_mem v hw), h.2 v List.mem_cons_self]
      exact decide_eq_true rfl

theorem IsScalar.isAnnotated {t : TypeExpr} {tag : Tag} (h : IsScalar t tag) :
    t.isAnnotated = false := by
  cases h <;> rfl

/-- The tag of a scalar, with notes around it, is that of the grammar. -/
theorem scalarTag?_eq_some_iff {t : TypeExpr} (ht : t.IsWellFormed) {tag : Tag} :
    t.scalarTag? = some tag ↔ IsScalar t.unwrap tag := by
  have hu := ht.unwrap
  rw [scalarTag?]
  -- The notes around the type do not count on either side.
  generalize t.unwrap = u at hu ⊢
  constructor
  · intro h
    split at h
    · rename_i values
      cases hu with
      | literal hvalues =>
        obtain ⟨hne, hall⟩ := commonTag?_eq_some_iff.1 h
        exact .literal hne fun v hv => (hasTag_iff (hvalues v hv)).2 (hall v hv)
    · rename_i e
      split at h
      · rename_i he; cases h; exact .textEnum he
      · rename_i he; cases h; exact .intEnum (.inl he)
      · rename_i he; cases h; exact .intEnum (.inr he)
      · cases h
      · cases h
    · cases h; exact .str
    · cases h; exact .int
    · cases h; exact .float
    · cases h; exact .decimal
    · cases h; exact .bool
    · cases h
  · intro h
    cases h with
    | textEnum he => simp only [he]
    | intEnum he => rcases he with he | he <;> simp only [he]
    | literal hne hvalues =>
      cases hu with
      | literal hliteral =>
        exact commonTag?_eq_some_iff.2
          ⟨hne, fun v hv => (hasTag_iff (hliteral v hv)).1 (hvalues v hv)⟩
    | _ => rfl

theorem IsBase.isAnnotated {t : TypeExpr} {kind : ParamKind} {tag : Option Tag}
    (h : IsBase t kind tag) : t.isAnnotated = false := by
  cases h with
  | scalar h => exact h.isAnnotated
  | array _ _ => rfl
  | record _ _ => rfl

theorem IsBase.isUnion {t : TypeExpr} {kind : ParamKind} {tag : Option Tag}
    (h : IsBase t kind tag) : t.isUnion = false := by
  cases h with
  | scalar h => cases h <;> rfl
  | array _ _ => rfl
  | record _ _ => rfl

theorem IsBase.isNothing {t : TypeExpr} {kind : ParamKind} {tag : Option Tag}
    (h : IsBase t kind tag) : t.isNothing = false := by
  cases h with
  | scalar h => cases h <;> rfl
  | array _ _ => rfl
  | record _ _ => rfl

/-- The tag of an array's items is that of the grammar. -/
theorem arrayTag?_eq_some_iff {t : TypeExpr} (ht : t.IsWellFormed) {tag : Tag} :
    t.arrayTag? = some tag ↔ IsBase t .array (some tag) := by
  constructor
  · intro h
    cases ht with
    | @collection form item hitem =>
      exact .array (isNoted_unwrap item) ((scalarTag?_eq_some_iff hitem).1 h)
    | _ => cases h
  · intro h
    cases h with
    | array hnoted hscalar =>
      cases ht with
      | collection hitem =>
        refine (scalarTag?_eq_some_iff hitem).2 ?_
        rwa [hnoted.unwrap_eq hscalar.isAnnotated]

/-! ## Resolving decides the grammar -/

/-- What is left of a well-formed type is well formed as well, if it is no union. -/
theorem IsWellFormed.base {t : TypeExpr} (ht : t.IsWellFormed) (hb : t.base.isUnion = false) :
    t.base.IsWellFormed := by
  have hu := ht.unwrap
  rw [TypeExpr.base] at hb ⊢
  cases hu' : t.unwrap with
  | union style ts =>
    rw [hu'] at hb hu
    have hstrip : (TypeExpr.union style ts).stripOptional.isUnion = false :=
      Bool.eq_false_iff.2 fun h => Bool.false_ne_true (hb ▸ isUnion_unwrap_of_isUnion h)
    have hmem : (TypeExpr.union style ts).stripOptional ∈ ts.filter (!·.isNothing) :=
      filter_eq_of_stripOptional hstrip ▸ List.mem_singleton_self _
    cases hu with
    | union _ hts => exact (hts _ (List.mem_filter.1 hmem).1).unwrap
  | _ =>
    rw [hu'] at hu
    exact hu.unwrap

/-- A type resolves to what the grammar says of its base, and is nilable if it is a union with
    nothing. -/
theorem resolve_eq_ok_iff {t : TypeExpr} (ht : t.IsWellFormed) {r : Resolution} :
    t.resolve = .ok r ↔ IsBase t.base r.kind r.tag ∧ r.nilable = t.isNilable := by
  obtain ⟨kind, tag, nilable⟩ := r
  constructor
  · intro hr
    have hnilable := nilable_of_resolve hr
    refine ⟨?_, hnilable⟩
    -- Below one union with nothing there is no other one, or the type would not resolve.
    have hb : t.base.isUnion = false := by
      cases hb : t.base.isUnion with
      | false => rfl
      | true =>
        rw [resolve_eq] at hr
        cases hbase : t.base <;> rw [hbase] at hb hr <;> cases hb
        cases hr
    have hwf := ht.base hb
    rw [resolve_eq] at hr
    split at hr
    · rename_i tag hs
      cases hr
      have hs := (scalarTag?_eq_some_iff hwf).1 hs
      rw [TypeExpr.base, unwrap_unwrap] at hs
      exact .scalar hs
    · rename_i tag _ ha
      cases hr
      exact (arrayTag?_eq_some_iff hwf).1 ha
    · split at hr
      · rename_i hrecord
        cases hr
        generalize t.base = b at hrecord ⊢
        cases b with
        | record head fields => exact .record head fields
        | _ => cases hrecord
      · cases hr
  · rintro ⟨hbase, hnilable⟩
    change IsBase t.base kind tag at hbase
    have hwf := ht.base hbase.isUnion
    have hunwrap : t.base.unwrap = t.base := unwrap_unwrap _
    rw [resolve_eq, ← hnilable]
    generalize t.base = b at hbase hwf hunwrap ⊢
    cases hbase with
    | scalar hs =>
      rw [(scalarTag?_eq_some_iff hwf).2 (hunwrap.symm ▸ hs)]
    | array hnoted hs =>
      rw [(arrayTag?_eq_some_iff hwf).2 (.array hnoted hs)]
      rfl
    | record head fields => rfl

/-! ## The grammar in terms of the base -/

theorem isOptional_eq_isNothing {t : TypeExpr} (ht : t.isUnion = false) :
    t.isOptional = t.isNothing := by
  cases t with
  | union style ts => cases ht
  | _ => rfl

/-- The members of a union with nothing: what is left without nothing, and that nothing is there. -/
theorem stripOptional_of_perm {style : UnionStyle} {ts : List TypeExpr} {member : TypeExpr}
    (hts : ts.Perm [member, nothing]) (hm : member.isNothing = false) :
    (TypeExpr.union style ts).stripOptional = member ∧
      (TypeExpr.union style ts).isOptional = true := by
  have hfilter : (ts.filter (!·.isNothing)).Perm [member] := by
    have hperm := hts.filter (!·.isNothing)
    rwa [List.filter_cons_of_pos (by simp [hm]), List.filter_cons_of_neg (by decide),
      List.filter_nil] at hperm
  refine ⟨?_, List.any_eq_true.2 ⟨nothing, hts.mem_iff.2 (by simp), rfl⟩⟩
  rw [stripOptional, List.perm_singleton.1 hfilter]

/-- A type denotes what its base does, and is nilable if it is a union with nothing. -/
theorem denotes_iff {t : TypeExpr} (ht : t.IsWellFormed) {r : Resolution} :
    Denotes t r ↔ IsBase t.base r.kind r.tag ∧ r.nilable = t.isNilable := by
  constructor
  · intro h
    cases h with
    | @base b kind tag hnoted hb =>
      have hunwrap := (IsNoted.bare b).unwrap_eq hb.isAnnotated
      rw [TypeExpr.base, isNilable, hnoted.unwrap_eq hb.isAnnotated,
        stripOptional_eq_self hb.isUnion, hunwrap, isOptional_eq_isNothing hb.isUnion]
      exact ⟨hb, hb.isNothing.symm⟩
    | @nilable member b style ts kind tag hnoted hts hmember hb =>
      have hunwrap := hmember.unwrap_eq hb.isAnnotated
      have hm : member.isNothing = false := Bool.eq_false_iff.2 fun h => by
        obtain rfl := isNothing_iff.1 h
        exact absurd (hunwrap ▸ hb.isNothing) (by decide)
      obtain ⟨hstrip, hoptional⟩ := @stripOptional_of_perm style ts member hts hm
      rw [TypeExpr.base, isNilable, hnoted.unwrap_eq rfl, hstrip, hoptional, hunwrap]
      exact ⟨hb, rfl⟩
  · obtain ⟨kind, tag, nilable⟩ := r
    rintro ⟨hb, hnilable⟩
    change IsBase t.base kind tag at hb
    change nilable = t.isNilable at hnilable
    have hwf := ht.unwrap
    have hnoted := isNoted_unwrap t
    have hflat := isAnnotated_unwrap t
    have hstrip := isUnion_stripOptional_unwrap hb.isUnion
    rw [hnilable, isNilable]
    rw [TypeExpr.base] at hb
    generalize t.unwrap = u at hb hwf hnoted hflat hstrip ⊢
    -- Without its notes, the type is a union with nothing, or its own base.
    cases hu : u.isUnion with
    | false =>
      rw [stripOptional_eq_self hu, (IsNoted.bare u).unwrap_eq hflat] at hb
      rw [isOptional_eq_isNothing hu, hb.isNothing]
      exact .base hnoted hb
    | true =>
      cases hwf with
      | @union style ts hmembers _ =>
        have hfilter := filter_eq_of_stripOptional hstrip
        have hperm := hmembers.perm_of_filter hfilter
        have hoptional : (TypeExpr.union style ts).isOptional = true :=
          List.any_eq_true.2 ⟨nothing, hperm.mem_iff.2 (by simp), rfl⟩
        rw [hoptional]
        exact .nilable hnoted hperm (isNoted_unwrap _) hb
      | _ => cases hu

theorem eq_unsupported_of_resolve {t : TypeExpr} {e : DescriptorError}
    (h : t.resolve = .error e) : e = .unsupported t := by
  rw [resolve_eq] at h
  split at h
  · cases h
  · cases h
  · split at h
    · cases h
    · cases h; rfl

/-- Resolving decides the grammar: a well-formed type resolves to what it denotes, and one that
    denotes nothing is refused, as a type that is not supported. -/
theorem resolve_iff_denotes {t : TypeExpr} (ht : t.IsWellFormed) :
    (∀ r, t.resolve = .ok r ↔ Denotes t r) ∧
      (t.resolve = .error (.unsupported t) ↔ ∀ r, ¬Denotes t r) := by
  have hok : ∀ r, t.resolve = .ok r ↔ Denotes t r := fun r =>
    (resolve_eq_ok_iff ht).trans (denotes_iff ht).symm
  refine ⟨hok, fun h r hr => ?_, fun h => ?_⟩
  · rw [(hok r).2 hr] at h
    cases h
  · cases hr : t.resolve with
    | ok r => exact absurd ((hok r).1 hr) (h r)
    | error e => rw [eq_unsupported_of_resolve hr]

/-- A sequence of noted regions, or nothing, is an array of texts through all notes around it; but a
    union with nothing around those notes is one too many. -/
theorem resolve_iff_denotes_of_noted_literals :
    let item := (literalOf [.text "eu", .text "us"]).annotate [.remark "a region"]
    let t := (pipe [nothing, (collection .sequence item).annotate [.remark "by priority"]]).annotate
      [.marker {}]
    t.IsWellFormed ∧ Denotes t ⟨.array, some .string, true⟩ ∧
      ∀ r, ¬Denotes t.optional.optional r := by
  intro item t
  have hitem : item.IsWellFormed := .annotate _ (.literalOf (by decide))
  have ht : t.IsWellFormed := .annotate _ <| .pipe fun u hu => by
    rcases List.mem_pair.1 hu with rfl | rfl
    · exact .plain _
    · exact .annotate _ (.collection hitem)
  exact ⟨ht, ((resolve_iff_denotes ht).1 _).1 rfl,
    (resolve_iff_denotes ht.optional.optional).2.1 rfl⟩

end TypeExpr

end TypedHeaders
