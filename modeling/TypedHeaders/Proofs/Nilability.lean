import TypedHeaders.Proofs.Grammar
import Mathlib.Data.List.Induction

/-!
# Notes around a type, and the union with nothing

Notes around a type do not change what it resolves to, and the union with nothing only
makes it nilable (`TypeExpr.resolve_annotate_and_optional`):

* the members of a union are taken into the union with nothing, so that a type that is
  nilable already stays as it is, but for the way it is written (`optional_of_union`);
* any other type becomes one of two members (`optional_of_not_isUnion`), and its base
  is below the notes around it.

There is one exception. Notes around a union with nothing keep its members apart from
those of a union around them. The union of such a type with nothing has a member that
is a union itself under its notes, and a base must not be one.
-/

namespace TypedHeaders.TypeExpr

/-! ## The members of the union with nothing -/

section Distinct

variable {ts : List TypeExpr}

/-- One more type is kept if none that was kept is the same. -/
theorem distinct_concat (ts : List TypeExpr) (t : TypeExpr) :
    distinct (ts ++ [t]) =
      if (distinct ts).any (·.same t) then distinct ts else distinct ts ++ [t] := by
  rw [distinct, List.foldl_append]
  rfl

/-- Types of which no two are the same are all kept. -/
theorem distinct_eq_self (hts : ts.Pairwise fun t u => t.same u = false) : distinct ts = ts := by
  induction ts using List.reverseRecOn with
  | nil => rfl
  | append_singleton ts t ih =>
    obtain ⟨hts, -, hlast⟩ := List.pairwise_append.1 hts
    have hnone : ¬ts.any (·.same t) = true := by
      simpa using fun u hu => hlast u hu t (List.mem_singleton_self t)
    rw [distinct_concat, ih hts, if_neg hnone]

theorem same_nothing (t : TypeExpr) : t.same nothing = t.isNothing := by
  cases t with
  | plain p => cases p <;> rfl
  | _ => rfl

/-- Nothing is added to types of which no two are the same, unless it is among them. -/
theorem distinct_append_nothing (hts : ts.Pairwise fun t u => t.same u = false) :
    distinct (ts ++ [nothing]) = if ts.any isNothing then ts else ts ++ [nothing] := by
  simp only [distinct_concat, distinct_eq_self hts, same_nothing]

end Distinct

variable {t : TypeExpr} {style : UnionStyle} {ts : List TypeExpr}

theorem members_eq_singleton (hu : t.isUnion = false) : t.members = [t] := by
  cases t with
  | union style ts => cases hu
  | _ => rfl

/-- A type that is no union, and not that of nothing, becomes a union of two members. -/
theorem optional_of_not_isUnion (hu : t.isUnion = false) (hn : t.isNothing = false) :
    t.optional = .union .listed [t, nothing] := by
  have hdistinct :=
    distinct_append_nothing (List.pairwise_singleton (fun t u => t.same u = false) t)
  rw [List.any_cons, hn, List.any_nil, Bool.or_false, if_neg Bool.false_ne_true] at hdistinct
  have hmembers : [t, nothing].flatMap members = [t] ++ [nothing] :=
    congrArg (· ++ [nothing]) (members_eq_singleton hu)
  rw [optional, unionOf, hmembers, hdistinct]
  rfl

/-- A union with nothing keeps its members. -/
theorem optional_of_union (hts : AreMembers ts) (hn : ts.any isNothing = true) :
    (TypeExpr.union style ts).optional = .union .listed ts := by
  have hmembers : [TypeExpr.union style ts, nothing].flatMap members = ts ++ [nothing] := by
    simp [members]
  rw [optional, unionOf, hmembers, distinct_append_nothing hts.distinct, if_pos hn]
  split
  · exact absurd hts.several (by simp)
  · rfl

/-! ## What a type that resolves is like -/

theorem isNothing_base (hn : t.isNothing = true) : t.base.isNothing = true := by
  rw [isNothing_iff.1 hn]
  rfl

/-- A type with a base is nilable exactly if it is a union under its notes. -/
theorem isNilable_eq_isUnion (ht : t.IsWellFormed) {kind : ParamKind} {tag : Option Tag}
    (hb : IsBase t.base kind tag) : t.isNilable = t.unwrap.isUnion := by
  have hwf := ht.unwrap
  have hstrip := isUnion_stripOptional_unwrap hb.isUnion
  rw [base] at hb
  rw [isNilable]
  generalize t.unwrap = u at hb hwf hstrip ⊢
  cases hu : u.isUnion with
  | false =>
    rw [isOptional_eq_isNothing hu]
    rw [stripOptional_eq_self hu] at hb
    cases hn : u.isNothing with
    | false => rfl
    | true =>
      -- Nothing is nilable without being a union, but it is no base.
      rw [isNothing_iff.1 hn] at hb
      exact absurd hb.isNothing (by decide)
  | true =>
    cases hwf with
    | union hmembers _ =>
      have hperm := hmembers.perm_of_filter (filter_eq_of_stripOptional hstrip)
      exact List.any_eq_true.2 ⟨nothing, hperm.mem_iff.2 (by simp), rfl⟩
    | _ => cases hu

/-- The base of the union with nothing is below the notes around the type, if that is no union. -/
theorem base_optional_of_not_isUnion (hu : t.isUnion = false) (hn : t.isNothing = false) :
    t.optional.base = t.unwrap ∧ t.optional.isNilable = true := by
  obtain ⟨hstrip, hoptional⟩ : (TypeExpr.union .listed [t, nothing]).stripOptional = t ∧
      (TypeExpr.union .listed [t, nothing]).isOptional = true :=
    stripOptional_of_perm (List.Perm.refl _) hn
  rw [optional_of_not_isUnion hu hn]
  exact ⟨congrArg unwrap hstrip, hoptional⟩

/-! ## Resolving -/

theorem resolve_annotate {notes : List Note} {r : Resolution} :
    (t.annotate notes).resolve = .ok r ↔ t.resolve = .ok r :=
  resolve_congr (base_annotate t notes) (isNilable_annotate t notes)

section Optional

variable {kind : ParamKind} {tag : Option Tag}

/-- A union that resolves does so with nothing among its members again. -/
theorem resolve_optional_of_isUnion (ht : t.IsWellFormed) (hb : IsBase t.base kind tag)
    (hu : t.isUnion = true) : t.optional.resolve = .ok ⟨kind, tag, true⟩ := by
  have hnilable := isNilable_eq_isUnion ht hb
  cases ht with
  | @union style ts hmembers hts =>
    have hok : IsBase (TypeExpr.union .listed ts).base kind tag ∧
        true = (TypeExpr.union .listed ts).isNilable := ⟨hb, hnilable.symm⟩
    rw [optional_of_union hmembers hnilable]
    exact (resolve_eq_ok_iff (.union hmembers hts)).2 hok
  | _ => cases hu

/-- A type that is no union under its notes becomes nilable. -/
theorem resolve_optional_of_not_isUnion (ht : t.IsWellFormed) (hb : IsBase t.base kind tag)
    (hu : t.unwrap.isUnion = false) : t.optional.resolve = .ok ⟨kind, tag, true⟩ := by
  have hn : t.isNothing = false := Bool.eq_false_iff.2 fun h =>
    Bool.false_ne_true (hb.isNothing.symm.trans (isNothing_base h))
  have houter : t.isUnion = false := Bool.eq_false_iff.2 fun h =>
    Bool.false_ne_true (hu.symm.trans (isUnion_unwrap_of_isUnion h))
  obtain ⟨hbase, hnilable⟩ := base_optional_of_not_isUnion houter hn
  have hsame : t.optional.base = t.base := by
    rw [hbase, base, stripOptional_eq_self hu, unwrap_unwrap]
  exact (resolve_eq_ok_iff ht.optional).2 ⟨hsame ▸ hb, hnilable.symm⟩

/-- A union that notes keep apart is no base of the union with nothing, which does not resolve. -/
theorem resolve_optional_of_annotated (ht : t.IsWellFormed) (ha : t.isAnnotated = true)
    (hu : t.unwrap.isUnion = true) : t.optional.resolve = .error (.unsupported t.optional) := by
  cases t with
  | annotated t notes =>
    obtain ⟨hbase, -⟩ := base_optional_of_not_isUnion (t := .annotated t notes) rfl rfl
    cases hresolve : (annotated t notes).optional.resolve with
    | ok r =>
      have hflat := ((resolve_eq_ok_iff ht.optional).1 hresolve).1.isUnion
      rw [hbase, hu] at hflat
      cases hflat
    | error e => rw [eq_unsupported_of_resolve hresolve]
  | _ => cases ha

end Optional

/-- With notes around it a type resolves exactly if it does without them, and to the same. The union
    with nothing of a type that resolves is nilable, and resolves to the same otherwise; but it does
    not resolve at all if the type is nilable already and has notes around it. -/
theorem resolve_annotate_and_optional (ht : t.IsWellFormed) :
    (∀ notes r, (t.annotate notes).resolve = .ok r ↔ t.resolve = .ok r) ∧
      ∀ kind tag n, t.resolve = .ok ⟨kind, tag, n⟩ →
        t.optional.resolve =
          if t.isAnnotated && n then .error (.unsupported t.optional)
          else .ok ⟨kind, tag, true⟩ := by
  refine ⟨fun notes r => resolve_annotate, fun kind tag n hr => ?_⟩
  obtain ⟨hb, hn⟩ := (resolve_eq_ok_iff ht).1 hr
  -- The type is nilable exactly if it is a union under its notes.
  have hn : n = t.unwrap.isUnion := hn.trans (isNilable_eq_isUnion ht hb)
  rw [hn]
  cases hinner : t.unwrap.isUnion with
  | false =>
    rw [Bool.and_false, if_neg Bool.false_ne_true]
    exact resolve_optional_of_not_isUnion ht hb hinner
  | true =>
    cases ha : t.isAnnotated with
    | true => exact resolve_optional_of_annotated ht ha hinner
    | false =>
      have hunwrap : t.unwrap = t := (IsNoted.bare t).unwrap_eq ha
      exact resolve_optional_of_isUnion ht hb (hunwrap ▸ hinner)

/-- A nilable type is so once; with notes around it, it is refused if it is to be nilable again. -/
theorem resolve_annotate_and_optional_tags :
    let tags := (collection .set (.plain .str)).annotate [.remark "in any order"]
    let t := pipe [nothing, tags]
    let u := t.annotate [.remark "may be left out"]
    t.IsWellFormed ∧ t.resolve = .ok ⟨.array, some .string, true⟩ ∧
      t.optional.resolve = .ok ⟨.array, some .string, true⟩ ∧
      u.resolve = .ok ⟨.array, some .string, true⟩ ∧
      u.optional.resolve = .error (.unsupported u.optional) := by
  intro tags t u
  have ht : t.IsWellFormed := .pipe fun v hv => by
    rcases List.mem_pair.1 hv with rfl | rfl
    · exact .plain _
    · exact .annotate _ (.collection (.plain _))
  have hr : t.resolve = .ok ⟨.array, some .string, true⟩ := rfl
  have hu : u.resolve = .ok ⟨.array, some .string, true⟩ :=
    ((resolve_annotate_and_optional ht).1 _ _).2 hr
  exact ⟨ht, hr, (resolve_annotate_and_optional ht).2 _ _ _ hr, hu,
    (resolve_annotate_and_optional (.annotate _ ht)).2 _ _ _ hu⟩

/-- The union with nothing does not make every type that resolves nilable. -/
theorem resolve_optional_of_noted_optional :
    let t := (plain .int).optional.annotate [.remark "note"]
    t.IsWellFormed ∧ t.resolve = .ok ⟨.scalar, some .int, true⟩ ∧
      t.optional.resolve ≠ .ok ⟨.scalar, some .int, true⟩ :=
  ⟨.annotate _ (.optional (.plain _)), rfl, fun h => by cases h⟩

end TypedHeaders.TypeExpr
