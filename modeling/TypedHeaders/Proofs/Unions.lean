import TypedHeaders.Proofs.Nilability

/-!
# Unions without nothing

A well-formed type is the union of its members, which are no unions themselves and no two
the same; a type that is no union is its own only member. What is left without nothing is
the union of the other members, made as any union is made (`stripOptional_eq_unionOf`):

* it has the other members, in the same order (`members_stripOptional`), so that nothing is
  left to take away (`stripOptional_stripOptional`);
* its union with nothing has nothing after them (`optional_of_not_isOptional`), which is as
  many members as there were, in another order at most.

Notes keep a union within them apart. A type with notes around it is a single member, also
where what the notes are on is a union with nothing.
-/

namespace TypedHeaders.TypeExpr

variable {t : TypeExpr} {style : UnionStyle} {ts : List TypeExpr}

/-! ## The members of a type -/

theorem isOptional_eq_any (t : TypeExpr) : t.isOptional = t.members.any isNothing := by
  cases t with
  | union style ts => rfl
  | _ => exact (Bool.or_false _).symm

theorem isOptional_iff : t.isOptional = true ↔ nothing ∈ t.members := by
  rw [isOptional_eq_any, List.any_eq_true]
  constructor
  · rintro ⟨u, hu, hn⟩
    exact isNothing_iff.1 hn ▸ hu
  · exact fun hn => ⟨nothing, hn, rfl⟩

theorem IsWellFormed.distinct_members (ht : t.IsWellFormed) :
    t.members.Pairwise fun t u => t.same u = false := by
  cases ht with
  | union hmembers _ => exact hmembers.distinct
  | _ => exact List.pairwise_singleton _ _

/-- Types that are no unions, and no two of which are the same, are united as they are. -/
theorem distinct_flatMap_members (hflat : ∀ t ∈ ts, t.isUnion = false)
    (hdistinct : ts.Pairwise fun t u => t.same u = false) : distinct (ts.flatMap members) = ts := by
  have hmembers : ts.flatMap members = ts := by
    rw [List.flatMap_congr fun t ht => members_eq_singleton (hflat t ht), List.flatMap_singleton']
  rw [hmembers, distinct_eq_self hdistinct]

theorem members_unionOf (hflat : ∀ t ∈ ts, t.isUnion = false)
    (hdistinct : ts.Pairwise fun t u => t.same u = false) : (unionOf style ts).members = ts := by
  rw [unionOf, distinct_flatMap_members hflat hdistinct]
  split
  · exact members_eq_singleton (hflat _ (List.mem_singleton_self _))
  · rfl

/-! ## Taking nothing out of the members -/

/-- A type that is no union is its own only member. -/
theorem others_eq_singleton (hu : t.isUnion = false) (hn : t.isNothing = false) :
    t.members.filter (!·.isNothing) = [t] := by
  rw [members_eq_singleton hu, List.filter_cons_of_pos (by rw [hn]; rfl), List.filter_nil]

namespace IsWellFormed

/-- There is another member than nothing, unless the type is that of nothing. -/
theorem others_ne_nil (ht : t.IsWellFormed) (hn : t.isNothing = false) :
    t.members.filter (!·.isNothing) ≠ [] := by
  cases hu : t.isUnion with
  | false => exact others_eq_singleton hu hn ▸ List.cons_ne_nil t []
  | true =>
    intro hnil
    cases ht with
    | @union style ts hmembers _ =>
      have hseveral := hmembers.several
      obtain ⟨u, hu⟩ := List.exists_mem_of_length_pos (Nat.lt_of_lt_of_le Nat.two_pos hseveral)
      have hmem : nothing ∈ ts := by
        have hn := List.filter_eq_nil_iff.1 hnil u hu
        exact isNothing_iff.1 (by simpa using hn) ▸ hu
      -- Nothing would be the only member.
      have hlength := (perm_filter_append_nothing hmembers.distinct hmem).length_eq
      rw [show ts.filter (!·.isNothing) = [] from hnil] at hlength
      rw [← hlength] at hseveral
      exact absurd hseveral (by decide)
    | _ => cases hu

theorem flat_others (ht : t.IsWellFormed) :
    ∀ u ∈ t.members.filter (!·.isNothing), u.isUnion = false := fun _ hu =>
  (ht.of_mem_members (List.mem_filter.1 hu).1).2

theorem distinct_others (ht : t.IsWellFormed) :
    (t.members.filter (!·.isNothing)).Pairwise fun t u => t.same u = false :=
  ht.distinct_members.filter _

end IsWellFormed

section Others

variable (ht : t.IsWellFormed) (hn : t.isNothing = false)
include ht hn

/-- What is left without nothing is the union of the other members. -/
theorem stripOptional_eq_unionOf :
    t.stripOptional = unionOf .listed (t.members.filter (!·.isNothing)) := by
  rw [unionOf, distinct_flatMap_members ht.flat_others ht.distinct_others]
  cases hu : t.isUnion with
  | false => rw [stripOptional_eq_self hu, others_eq_singleton hu hn]
  | true =>
    cases ht with
    | union _ _ => rfl
    | _ => cases hu

theorem IsWellFormed.stripOptional : t.stripOptional.IsWellFormed := by
  rw [stripOptional_eq_unionOf ht hn]
  exact .unionOf .listed (ht.others_ne_nil hn) fun u hu =>
    (ht.of_mem_members (List.mem_filter.1 hu).1).1

theorem members_stripOptional :
    t.stripOptional.members = t.members.filter (!·.isNothing) := by
  rw [stripOptional_eq_unionOf ht hn, members_unionOf ht.flat_others ht.distinct_others]

theorem isOptional_stripOptional : t.stripOptional.isOptional = false := by
  rw [isOptional_eq_any, members_stripOptional ht hn, List.any_filter]
  simp

theorem isNothing_stripOptional : t.stripOptional.isNothing = false := by
  have hoptional := isOptional_stripOptional ht hn
  refine Bool.eq_false_iff.2 fun h => ?_
  rw [isNothing_iff.1 h] at hoptional
  cases hoptional

/-- There is nothing to take away a second time. -/
theorem stripOptional_stripOptional : t.stripOptional.stripOptional = t.stripOptional := by
  rw [stripOptional_eq_unionOf (ht.stripOptional hn) (isNothing_stripOptional ht hn),
    members_stripOptional ht hn, List.filter_filter, stripOptional_eq_unionOf ht hn]
  simp only [Bool.and_self]

end Others

/-! ## Adding nothing again -/

/-- The union with nothing has nothing as one more member. -/
theorem optional_of_not_isOptional (ht : t.IsWellFormed) (hn : t.isOptional = false) :
    t.optional = .union .listed (t.members ++ [nothing]) := by
  have hmembers : [t, nothing].flatMap members = t.members ++ [nothing] :=
    congrArg (t.members ++ ·) (List.append_nil _)
  rw [optional, unionOf, hmembers, distinct_append_nothing ht.distinct_members,
    if_neg (by rw [← isOptional_eq_any, hn]; exact Bool.false_ne_true)]
  -- There is a member before nothing, so that the union does not come to a single one.
  obtain ⟨u, us, hus⟩ := List.exists_cons_of_ne_nil ht.members_ne_nil
  rw [hus]
  cases us <;> rfl

/-- A type, other than that of nothing, is optional exactly if it is a union with nothing. -/
theorem isOptional_iff_union (hn : t.isNothing = false) :
    t.isOptional = true ↔ ∃ style ts, t = .union style ts ∧ nothing ∈ ts := by
  rw [isOptional_iff]
  constructor
  · intro hmem
    cases hu : t.isUnion with
    | false =>
      rw [members_eq_singleton hu, List.mem_singleton] at hmem
      rw [← hmem] at hn
      cases hn
    | true =>
      cases t with
      | union style ts => exact ⟨style, ts, rfl, hmem⟩
      | _ => cases hu
  · rintro ⟨style, ts, rfl, hmem⟩
    exact hmem

/-- Taking nothing out of the members of a type takes out that and no more: what is left is not
    optional, so that there is nothing to take away a second time, and it has the other members in
    the same order. A type is optional if it is a union with nothing; then what is left has a union
    with nothing that has the members of the type again. -/
theorem stripOptional_removes_nothing (ht : t.IsWellFormed) (hn : t.isNothing = false) :
    t.stripOptional.isOptional = false ∧
    t.stripOptional.stripOptional = t.stripOptional ∧
    t.stripOptional.members = t.members.filter (!·.isNothing) ∧
    (t.isOptional = true ↔ ∃ style ts, t = .union style ts ∧ nothing ∈ ts) ∧
    (t.isOptional = true →
      ∃ ts, t.stripOptional.optional = .union .listed ts ∧ ts.Perm t.members) := by
  have hoptional := isOptional_stripOptional ht hn
  refine ⟨hoptional, stripOptional_stripOptional ht hn, members_stripOptional ht hn,
    isOptional_iff_union hn, fun h => ?_⟩
  rw [optional_of_not_isOptional (ht.stripOptional hn) hoptional, members_stripOptional ht hn]
  exact ⟨_, rfl, perm_filter_append_nothing ht.distinct_members (isOptional_iff.1 h)⟩

/-- A member that is optional itself, under its notes, is kept as it is. -/
theorem stripOptional_removes_nothing_outside_notes :
    let count := (plain .int).optional.annotate [.remark "if counted"]
    let t := pipe [.plain .str, nothing, count]
    t.IsWellFormed ∧ t.isNothing = false ∧ t.isOptional = true ∧
      t.stripOptional.members = [.plain .str, count] ∧ t.stripOptional.isOptional = false ∧
      ∃ ts, t.stripOptional.optional = .union .listed ts ∧ ts.Perm [.plain .str, nothing, count] := by
  intro count t
  have ht : t.IsWellFormed := .pipe fun u hu => by
    simp only [List.mem_cons, List.not_mem_nil, or_false] at hu
    rcases hu with rfl | rfl | rfl
    · exact .plain _
    · exact .plain _
    · exact .annotate _ (.optional (.plain _))
  obtain ⟨hoptional, -, hmembers, -, hagain⟩ := stripOptional_removes_nothing ht rfl
  exact ⟨ht, rfl, rfl, hmembers, hoptional, hagain rfl⟩

end TypedHeaders.TypeExpr
