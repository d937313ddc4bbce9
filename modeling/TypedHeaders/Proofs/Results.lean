import TypedHeaders.Conversion
import Mathlib

/-!
# Results

When a computation of several steps has a result, and which one. The fit that a
conversion keeps beside its value decides only which member of a union is taken;
everywhere else `Converted.result`, which forgets it, respects the steps of a
conversion (`Converted.result_bind`), and so do the functions that gather the
items of collections.
-/

namespace TypedHeaders

section Except

variable {ε ε' α β : Type}

theorem bind_eq_ok {x : Except ε α} {f : α → Except ε β} {b : β} :
    x >>= f = .ok b ↔ ∃ a, x = .ok a ∧ f a = .ok b := by
  cases x <;> simp [bind, Except.bind]

/-- A computation of two steps ends with the error of the first one, or else of the second one. -/
theorem bind_eq_error {x : Except ε α} {f : α → Except ε β} {e : ε} :
    x >>= f = .error e ↔ x = .error e ∨ ∃ a, x = .ok a ∧ f a = .error e := by
  cases x <;> simp [bind, Except.bind]

theorem mapError_eq_ok {x : Except ε α} {f : ε → ε'} {a : α} :
    x.mapError f = .ok a ↔ x = .ok a := by
  cases x <;> simp [Except.mapError]

theorem mapError_eq_error {x : Except ε α} {f : ε → ε'} {e : ε'} :
    x.mapError f = .error e ↔ ∃ e', x = .error e' ∧ f e' = e := by
  cases x <;> simp [Except.mapError]

theorem map_eq_ok {x : Except ε α} {f : α → β} {b : β} :
    x.map f = .ok b ↔ ∃ a, x = .ok a ∧ f a = b := by
  cases x <;> simp [Except.map]

/-- A list is mapped to a list, item by item. -/
theorem mapM_eq_ok {f : α → Except ε β} {as : List α} {bs : List β} :
    as.mapM f = .ok bs ↔ List.Forall₂ (fun a b => f a = .ok b) as bs := by
  induction as generalizing bs with
  | nil =>
    rw [List.mapM_nil, List.forall₂_nil_left_iff]
    exact ⟨fun h => (Except.ok.inj h).symm, fun h => h ▸ rfl⟩
  | cons a as ih =>
    rw [List.mapM_cons, bind_eq_ok, List.forall₂_cons_left_iff]
    refine exists_congr fun b => ?_
    rw [bind_eq_ok, ← exists_and_left]
    refine exists_congr fun bs' => and_congr_right fun _ => ?_
    rw [ih]
    exact and_congr_right fun _ => ⟨fun h => (Except.ok.inj h).symm, fun h => h ▸ rfl⟩

/-- The first item that cannot be mapped gives the error of the list, whatever is after it. -/
theorem mapM_of_first_error {f : α → Except ε β} {before after : List α} {a : α} {e : ε}
    (hbefore : ∀ b ∈ before, ∃ c, f b = .ok c) (ha : f a = .error e) :
    (before ++ a :: after).mapM f = .error e := by
  induction before with
  | nil => rw [List.nil_append, List.mapM_cons, ha]; rfl
  | cons b before ih =>
    obtain ⟨c, hc⟩ := hbefore b List.mem_cons_self
    rw [List.cons_append, List.mapM_cons, hc, bind_eq_error]
    exact .inr ⟨c, rfl, bind_eq_error.2 (.inl (ih fun b hb => hbefore b (List.mem_cons_of_mem _ hb)))⟩

/-- Where a list cannot be mapped, there is a first item that cannot. -/
theorem exists_first_error {f : α → Except ε β} {as : List α} {e : ε} (h : as.mapM f = .error e) :
    ∃ before a after, as = before ++ a :: after ∧ (∀ b ∈ before, ∃ c, f b = .ok c) ∧
      f a = .error e := by
  induction as with
  | nil => cases h
  | cons a as ih =>
    rw [List.mapM_cons, bind_eq_error] at h
    rcases h with ha | ⟨c, ha, h⟩
    · exact ⟨[], a, as, rfl, fun b hb => absurd hb List.not_mem_nil, ha⟩
    · rcases bind_eq_error.1 h with has | ⟨cs, -, hpure⟩
      · obtain ⟨before, b, after, rfl, hbefore, hb⟩ := ih has
        refine ⟨a :: before, b, after, rfl, fun b' hb' => ?_, hb⟩
        rcases List.mem_cons.1 hb' with rfl | hb'
        · exact ⟨c, ha⟩
        · exact hbefore b' hb'
      · cases hpure

/-- A list can be mapped to a list if each item can be mapped. -/
theorem exists_mapM_eq_ok {f : α → Except ε β} {as : List α} (h : ∀ a ∈ as, ∃ b, f a = .ok b) :
    ∃ bs, as.mapM f = .ok bs := by
  suffices hall : ∃ bs, List.Forall₂ (fun a b => f a = .ok b) as bs from
    hall.imp fun _ => mapM_eq_ok.2
  induction as with
  | nil => exact ⟨[], .nil⟩
  | cons a as ih =>
    obtain ⟨b, hb⟩ := h a List.mem_cons_self
    obtain ⟨bs, hbs⟩ := ih fun a' ha' => h a' (List.mem_cons_of_mem a ha')
    exact ⟨b :: bs, .cons hb hbs⟩

/-- Of two lists that are related item by item, each item of the second one is related to one of
    the first. -/
theorem exists_of_forall₂ {R : α → β → Prop} {as : List α} {bs : List β}
    (h : List.Forall₂ R as bs) {b : β} (hb : b ∈ bs) : ∃ a ∈ as, R a b := by
  induction h with
  | nil => cases hb
  | cons ha _ ih =>
    rcases List.mem_cons.1 hb with rfl | hb
    · exact ⟨_, List.mem_cons_self, ha⟩
    · obtain ⟨a, hmem, ha⟩ := ih hb
      exact ⟨a, List.mem_cons_of_mem _ hmem, ha⟩

end Except

namespace Converted

variable {α β : Type} {a : Converted α} {f : α → Converted β} {x : α}

/-! ## One step after the other -/

theorem result_bind : (a >>= f).result = a.result >>= fun x => (f x).result := by
  cases a with
  | error e => rfl
  | ok x =>
    change (Converted.bind (.ok x) f).result = (f x.value).result
    simp only [Converted.bind]
    cases f x.value <;> rfl

@[simp] theorem result_pure : (pure x : Converted α).result = .ok x := rfl

@[simp] theorem result_refuse {r : Reason} :
    (refuse r : Converted α).result = .error (.whole r) := rfl

@[simp] theorem result_ofCheck {r : Except Rejection α} : (ofCheck r).result = r := by
  cases r <;> rfl

theorem result_ofReason {c : Closeness} {r : Except Reason α} :
    (ofReason c r).result = r.mapError .whole := by
  cases r <;> rfl

theorem result_inside {part : String} :
    (a.inside part).result = a.result.mapError (·.inside part) := by
  cases a <;> rfl

theorem result_eq_error {e : Rejection} : a.result = .error e ↔ a = .error e := by
  constructor
  · intro he
    cases a with
    | error e' => rw [← Except.error.inj he]
    | ok x => cases he
  · rintro rfl
    rfl

/-- A conversion of two steps has a result if both have. -/
@[simp] theorem bind_result_eq_ok {y : β} :
    (a >>= f).result = .ok y ↔ ∃ x, a.result = .ok x ∧ (f x).result = .ok y := by
  rw [result_bind, bind_eq_ok]

@[simp] theorem ofReason_result_eq_ok {c : Closeness} {r : Except Reason α} :
    (ofReason c r).result = .ok x ↔ r = .ok x := by
  rw [result_ofReason, mapError_eq_ok]

@[simp] theorem inside_result_eq_ok {part : String} :
    (a.inside part).result = .ok x ↔ a.result = .ok x := by
  rw [result_inside, mapError_eq_ok]

theorem pure_result_eq_ok {y : α} : (pure x : Converted α).result = .ok y ↔ x = y := by
  rw [result_pure, Except.ok.injEq]

theorem refuse_result_ne_ok {r : Reason} : (refuse r : Converted α).result ≠ .ok x := by
  simp

/-! ## Several parts -/

@[simp] theorem both_result_eq_ok {b : Converted β} {z : α × β} :
    (both a b).result = .ok z ↔ a.result = .ok z.1 ∧ b.result = .ok z.2 := by
  obtain ⟨x, y⟩ := z
  cases a <;> cases b <;> simp [both, result, Except.map]

theorem all_result_eq_ok {as : List (Converted α)} {xs : List α} :
    (all as).result = .ok xs ↔ List.Forall₂ (fun a x => a.result = .ok x) as xs := by
  induction as generalizing xs with
  | nil =>
    rw [all, pure_result_eq_ok, List.forall₂_nil_left_iff, eq_comm]
  | cons a as ih =>
    rw [all, bind_result_eq_ok, List.forall₂_cons_left_iff]
    simp only [both_result_eq_ok, ih, pure_result_eq_ok, Prod.exists, and_assoc]
    refine exists_congr fun x => ?_
    simp only [eq_comm]

/-- The places of items do not count for their results. -/
theorem forall₂_placed {as : List (Converted α)} {xs : List α} :
    List.Forall₂ (fun a x => a.result = .ok x) (placed as) xs ↔
      List.Forall₂ (fun a x => a.result = .ok x) as xs := by
  suffices h : ∀ n, List.Forall₂ (fun a x => a.result = .ok x)
      ((as.zipIdx n).map fun p => p.1.inside (Numeral.integerText p.2)) xs ↔
        List.Forall₂ (fun a x => a.result = .ok x) as xs from h 0
  induction as generalizing xs with
  | nil => intro n; rfl
  | cons a as ih =>
    intro n
    rw [List.zipIdx_cons, List.map_cons, List.forall₂_cons_left_iff, List.forall₂_cons_left_iff]
    simp only [inside_result_eq_ok, ih]

end Converted

end TypedHeaders
