import Mathlib
import TypedHeaders.Metrics

/-!
# Counters

A counter is increased by one amount after the other, in binary numbers. It
*shows* the amounts if it is what comes of that; as long as their sum is at most
2⁵³, it is that sum (`Binary64.Shows`). The samples of counters *tally*
observations if they show how often each label was observed
(`Metrics.Tallies`).

* `Metrics.Tallies.observe`: one more observation is one more in the tally;
* `Metrics.Tallies.observeAll`: so that all observations of a run are tallied.
-/

namespace TypedHeaders

namespace Numeral

/-! ## Adding up -/

/-- A quotient without a remainder is not rounded. -/
theorem roundQuotient_of_dvd {num den : Nat} (hden : 0 < den) (h : den ∣ num) :
    roundQuotient num den = num / den := by
  have hlt : compare (2 * (num % den)) den = .lt := by
    rw [Nat.mod_eq_zero_of_dvd h, Nat.mul_zero, Nat.compare_eq_lt]
    exact hden
  simp only [roundQuotient, hlt]

namespace Binary64

/-- Of 53 binary digits none is rounded off. -/
theorem roundUnits_mul_pow {n : Nat} (hn : n < 2 ^ 53) (k : Nat) :
    roundUnits (n * 2 ^ k) 1 = n * 2 ^ k := by
  have hlog : (n * 2 ^ k).log2 - 52 ≤ k := by
    by_cases hz : n * 2 ^ k = 0
    · simp [hz]
    · have hlt : (n * 2 ^ k).log2 < 53 + k := by
        rw [Nat.log2_lt hz, Nat.pow_add]
        exact Nat.mul_lt_mul_of_pos_right hn (Nat.two_pow_pos k)
      omega
  -- The unit of the last digit that is kept divides the factor, so that nothing remains.
  have hdvd : 2 ^ ((n * 2 ^ k).log2 - 52) ∣ n * 2 ^ k :=
    Dvd.dvd.mul_left (Nat.pow_dvd_pow 2 hlog) n
  simp only [roundUnits, Nat.div_one, Nat.one_mul, Nat.pow_eq]
  rw [roundQuotient_of_dvd (Nat.two_pow_pos _) hdvd, Nat.div_mul_cancel hdvd]

theorem exists_unitsPerOne : ∃ k, unitsPerOne = 2 ^ k := by
  unfold unitsPerOne
  generalize 1074 = k
  exact ⟨k, rfl⟩

theorem ofUnits_of_le {n : Nat} (hn : n ≤ 2 ^ 53) :
    ofUnits false (n * unitsPerOne) 1 = .finite false (n * unitsPerOne) := by
  -- The last number has one digit too many, and is a power of two.
  rcases Nat.lt_or_eq_of_le hn with hlt | rfl
  · obtain ⟨k, hk⟩ : ∃ k, unitsPerOne = 2 ^ k := exists_unitsPerOne
    have hround : roundUnits (n * unitsPerOne) 1 = n * unitsPerOne :=
      hk ▸ roundUnits_mul_pow hlt k
    have hone : 0 < unitsPerOne := hk ▸ Nat.two_pow_pos k
    have hlimit : 2 ^ 53 * unitsPerOne < unitsLimit := by decide +kernel
    rw [ofUnits, hround]
    exact if_pos ((Nat.mul_lt_mul_of_pos_right hlt hone).trans hlimit)
  · decide +kernel

theorem ofInt_of_le {n : Nat} (hn : n ≤ 2 ^ 53) : ofInt n = .finite false (n * unitsPerOne) := by
  have hnegative : decide ((n : Int) < 0) = false := by simp
  rw [ofInt, Int.natAbs_natCast, hnegative, ofUnits_of_le hn]

theorem addNat_finite {x : Binary64} {negative negative' : Bool} {a b n : Nat}
    (hx : x = .finite negative a) (hn : ofInt n = .finite negative' b) :
    x.addNat n = ofUnits false (a + b) 1 := by
  unfold addNat
  split
  · rename_i h
    cases hx
    rw [hn] at h
    cases h
    rfl
  · rename_i h
    exact (h _ _ hn).elim
  · rename_i h _
    exact (h _ _ hx).elim

/-- Adding up to 2⁵³ is exact. -/
theorem addNat_of_le {m n : Nat} (h : m + n ≤ 2 ^ 53) :
    (ofInt m).addNat n = ofInt ((m + n : Nat) : Int) :=
  calc (ofInt m).addNat n
      = ofUnits false (m * unitsPerOne + n * unitsPerOne) 1 :=
        addNat_finite (ofInt_of_le (Nat.le_trans (Nat.le_add_right m n) h))
          (ofInt_of_le (Nat.le_trans (Nat.le_add_left n m) h))
    _ = .finite false ((m + n) * unitsPerOne) := by rw [← Nat.add_mul, ofUnits_of_le h]
    _ = ofInt ((m + n : Nat) : Int) := (ofInt_of_le h).symm

/-- The number shows amounts: it comes of adding them one after the other to zero, with the nearest
    number as the result of each addition; as long as their sum is at most 2⁵³, it is the sum. -/
structure Shows (x : Binary64) (amounts : List Nat) : Prop where
  added : x = amounts.foldl addNat (.finite false 0)
  exact : amounts.sum ≤ 2 ^ 53 → x = ofInt amounts.sum

theorem foldl_addNat_of_le {amounts : List Nat} {m : Nat} (h : m + amounts.sum ≤ 2 ^ 53) :
    amounts.foldl addNat (ofInt m) = ofInt ((m + amounts.sum : Nat) : Int) := by
  induction amounts generalizing m with
  | nil => rw [List.sum_nil, Nat.add_zero, List.foldl_nil]
  | cons n amounts ih =>
    rw [List.sum_cons, ← Nat.add_assoc] at h ⊢
    rw [List.foldl_cons, addNat_of_le (Nat.le_trans (Nat.le_add_right _ _) h), ih h]

/-- What is added up shows the amounts. -/
theorem shows_foldl (amounts : List Nat) : (amounts.foldl addNat (.finite false 0)).Shows amounts where
  added := rfl
  exact h := by
    have hzero : (.finite false 0 : Binary64) = ofInt (0 : Nat) := by decide +kernel
    rw [hzero, foldl_addNat_of_le (by omega), Nat.zero_add]

theorem shows_nil : Shows (.finite false 0) [] := shows_foldl []

/-- One more amount. -/
theorem Shows.add {x : Binary64} {amounts : List Nat} (hx : x.Shows amounts) (n : Nat) :
    (x.addNat n).Shows (amounts ++ [n]) := by
  obtain ⟨rfl, -⟩ := hx
  rw [← List.foldl_concat addNat]
  exact shows_foldl _

end Binary64

end Numeral

open Numeral

namespace Metrics

/-! ## Samples -/

variable {label l : Label} {samples : List (Label × Binary64)}

/-- The number that samples show for a label, zero if there is none. -/
def shown (samples : List (Label × Binary64)) (label : Label) : Binary64 :=
  (samples.lookup label).getD (.finite false 0)

/-- Of all labels, just the one that is counted is increased. -/
theorem shown_increment :
    shown (increment label samples) l =
      if l = label then (shown samples l).addNat 1 else shown samples l := by
  induction samples with
  | nil =>
    by_cases hl : l = label
    · simp [shown, increment, hl]
    · simp [shown, increment, hl, List.lookup_cons, beq_eq_false_iff_ne.2 hl]
  | cons sample samples ih =>
    obtain ⟨l', x⟩ := sample
    by_cases hl' : l' = label
    · subst hl'
      by_cases hl : l = l'
      · simp [shown, increment, hl]
      · simp [shown, increment, hl, List.lookup_cons, beq_eq_false_iff_ne.2 hl]
    · rw [increment, if_neg hl']
      by_cases hl : l = l'
      · subst hl
        simp [shown, hl']
      · simp only [shown, List.lookup_cons, beq_eq_false_iff_ne.2 hl] at ih ⊢
        exact ih

/-- A label that is counted has a sample, which comes last if it is a new one. -/
theorem labels_increment :
    (increment label samples).map (·.1) =
      if label ∈ samples.map (·.1) then samples.map (·.1) else samples.map (·.1) ++ [label] := by
  induction samples with
  | nil => rfl
  | cons sample samples ih =>
    obtain ⟨l', x⟩ := sample
    by_cases hl' : l' = label
    · simp [increment, hl']
    · rw [increment, if_neg hl', List.map_cons, ih]
      have hne : label ≠ l' := fun h => hl' h.symm
      simp only [List.map_cons, List.mem_cons, hne, false_or]
      split <;> rfl

/-! ## Tallies -/

/-- The samples tally labels: each label has a single sample if it occurs, which shows how often,
    and none otherwise. -/
structure Tallies (m : Metrics) (labels : List Label) : Prop where
  distinct : (m.bindings.map (·.1)).Nodup
  mem_iff : ∀ l, l ∈ m.bindings.map (·.1) ↔ l ∈ labels
  count : ∀ l, (m.count l).Shows (List.replicate (labels.count l) 1)

theorem tallies_nil : Tallies {} [] where
  distinct := List.nodup_nil
  mem_iff _ := Iff.rfl
  count _ := Binary64.shows_nil

variable {m : Metrics} {labels : List Label} {reason : String} {params : Int}

theorem bindings_observe :
    (m.observe reason params).1.bindings = increment (.ofReason reason) m.bindings := by
  rw [observe]
  dsimp only
  split
  · rfl
  · split
    · rfl
    · split <;> rfl

/-- An observation increases the count of its own label by one, and no other. -/
theorem count_observe :
    (m.observe reason params).1.count l =
      if l = .ofReason reason then (m.count l).addNat 1 else m.count l := by
  rw [count, bindings_observe]
  exact shown_increment

/-- One more observation is one more in the tally. -/
theorem Tallies.observe (hm : m.Tallies labels) (reason : String) (params : Int) :
    (m.observe reason params).1.Tallies (labels ++ [.ofReason reason]) where
  distinct := by
    rw [bindings_observe, labels_increment]
    split
    · exact hm.distinct
    · -- A label that is new is none of those before.
      rename_i hnew
      exact List.nodup_append.2 ⟨hm.distinct, List.nodup_singleton _,
        fun a ha b hb => by
          rintro rfl
          exact hnew (List.mem_singleton.1 hb ▸ ha)⟩
  mem_iff l := by
    rw [bindings_observe, labels_increment, List.mem_append, List.mem_singleton]
    split
    · rename_i hold
      rw [hm.mem_iff]
      exact ⟨.inl, fun h => h.elim id fun h => h ▸ (hm.mem_iff _).1 hold⟩
    · rw [List.mem_append, List.mem_singleton, hm.mem_iff]
  count l := by
    rw [count_observe, List.count_append]
    by_cases hl : l = .ofReason reason
    · rw [if_pos hl, hl, List.count_singleton_self, List.replicate_succ']
      exact (hm.count _).add 1
    · have hother : [Label.ofReason reason].count l = 0 :=
        List.count_eq_zero.2 fun h => hl (List.mem_singleton.1 h)
      rw [if_neg hl, hother, Nat.add_zero]
      exact hm.count l

/-- The counters after some observations, each of a reason and a number of parameters. -/
def observeAll (m : Metrics) (observations : List (String × Int)) : Metrics :=
  observations.foldl (fun m o => (m.observe o.1 o.2).1) m

/-- A run of observations is tallied. -/
theorem Tallies.observeAll (hm : m.Tallies labels) (observations : List (String × Int)) :
    (m.observeAll observations).Tallies (labels ++ observations.map fun o => .ofReason o.1) := by
  induction observations generalizing m labels with
  | nil => rwa [List.map_nil, List.append_nil]
  | cons o observations ih =>
    have h := ih (hm.observe o.1 o.2)
    rwa [List.append_assoc] at h

/-- The counts of all samples together are the number of observations. -/
theorem Tallies.sum_count (hm : m.Tallies labels) :
    (m.bindings.map fun s => labels.count s.1).sum = labels.length := by
  -- The samples are there for just the labels that occur, each of them once.
  have hperm : (m.bindings.map (·.1)).Perm labels.dedup :=
    (List.perm_ext_iff_of_nodup hm.distinct labels.nodup_dedup).2 fun l => by
      rw [hm.mem_iff, List.mem_dedup]
  have hsum := (hperm.map labels.count).sum_eq
  rw [List.map_map, List.sum_map_count_dedup_eq_length] at hsum
  exact hsum

/-- The parameters of an observation are added to the others. -/
theorem params_observe (m : Metrics) (reason : String) {n : Nat} (hn : n ≤ 2 ^ 53) :
    (m.observe reason n).1.params = if n = 0 then m.params else m.params.addNat n := by
  have hfinite : (Binary64.ofInt n).isFinite = true := by
    rw [Binary64.ofInt_of_le hn, Binary64.isFinite]
  rw [observe]
  dsimp only
  rw [if_neg (Int.not_lt.2 (Int.natCast_nonneg n)), hfinite, Int.toNat_natCast]
  by_cases hz : n = 0
  · rw [if_pos hz, if_pos (by rw [hz]; rfl)]
  · rw [if_neg hz, if_neg (by exact_mod_cast hz)]
    rfl

/-- The labels under which reasons are counted, whatever they are. -/
def allLabels : List Label :=
  [⟨"ok", "ok"⟩, ⟨"fail", "missing"⟩, ⟨"fail", "cast"⟩, ⟨"fail", "validation"⟩, ⟨"fail", "other"⟩]

theorem ofReason_mem_allLabels (reason : String) : Label.ofReason reason ∈ allLabels := by
  by_cases hknown : reason ∈ knownReasons
  · have : ∀ reason ∈ knownReasons, Label.ofReason reason ∈ allLabels := by decide
    exact this reason hknown
  · have hok : reason ≠ "ok" := by
      rintro rfl
      exact hknown (by decide)
    rw [Label.ofReason, if_neg hok, if_neg (by simpa using hknown)]
    decide

end Metrics

end TypedHeaders
