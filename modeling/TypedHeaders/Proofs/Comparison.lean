import TypedHeaders.Number
import TypedHeaders.Proofs.Digits

/-!
# The order of numbers

Integers, binary numbers and decimals are compared by their *exact values*, which
are rational, or infinite (`Number.toExtended?`). Decimals are compared without ever
computing their values: by their signs, by the places of their leading digits, and
by their digits only where these are the same (`Decimal.compares_compare`). The
keys of binary numbers are in the order of their values
(`Binary64.compares_of_compare?`), as far as these are numbers of 64 bits.

* `Number.compares_of_order?`: how two numbers compare is how their exact values do;
* `Number.toExtended?_eq_of_equal`: equal numbers have the same exact value.
-/

namespace TypedHeaders

/-- The rational numbers with the two infinities. -/
abbrev Extended := WithBot (WithTop ℚ)

/-- The rational numbers are in the same order among the extended ones. -/
theorem Extended.strictMono_coe : StrictMono fun q : ℚ => ((q : WithTop ℚ) : Extended) :=
  WithBot.coe_strictMono.comp WithTop.coe_strictMono

/-- What is in order stays so under a map that keeps the order. -/
theorem compares_map {α β : Type} [LinearOrder α] [LinearOrder β] {f : α → β}
    (hf : StrictMono f) {o : Ordering} {a b : α} (h : o.Compares a b) : o.Compares (f a) (f b) := by
  cases o with
  | lt => exact hf h
  | eq => exact congrArg f h
  | gt => exact hf h

namespace Numeral

/-! ## Decimals -/

namespace Decimal

/-- The value of a decimal. -/
def toRat (d : Decimal) : ℚ :=
  (if d.negative then -1 else 1) * (d.coefficient * 10 ^ d.exponent)

theorem toRat_of_negative (c : Nat) (e : Int) : toRat ⟨true, c, e⟩ = -(c * 10 ^ e) := by
  rw [toRat, if_pos rfl, neg_one_mul]

theorem toRat_of_not_negative (c : Nat) (e : Int) : toRat ⟨false, c, e⟩ = c * 10 ^ e := by
  rw [toRat, if_neg Bool.false_ne_true, one_mul]

/-- A number with `w` digits is below the power of ten that `w` more places make. -/
theorem magnitude_lt (c : Nat) (e : Int) : (c * 10 ^ e : ℚ) < 10 ^ (e + width c) := by
  have hc : (c : ℚ) < 10 ^ width c := by exact_mod_cast lt_pow_width c
  rw [zpow_add₀ (by norm_num), mul_comm, zpow_natCast]
  exact mul_lt_mul_of_pos_left hc (by positivity)

theorem le_magnitude {c : Nat} (hc : c ≠ 0) (e : Int) :
    (10 ^ (e + width c - 1) : ℚ) ≤ c * 10 ^ e := by
  have hpred : width c - 1 < width c := Nat.sub_lt (width_pos c) Nat.one_pos
  have hle : (10 ^ (width c - 1) : ℚ) ≤ c := by exact_mod_cast pow_le_of_lt_width hc hpred
  have hexponent : e + width c - 1 = ((width c - 1 : Nat) : Int) + e := by
    have := width_pos c
    omega
  rw [hexponent, zpow_add₀ (by norm_num), zpow_natCast]
  exact mul_le_mul_of_nonneg_right hle (by positivity)

/-- Where the leading digit of one number has a lower place, that number is less. -/
theorem magnitude_lt_of_place {c₁ c₂ : Nat} {e₁ e₂ : Int} (hc₂ : c₂ ≠ 0)
    (hplace : e₁ + width c₁ < e₂ + width c₂) : (c₁ * 10 ^ e₁ : ℚ) < c₂ * 10 ^ e₂ :=
  calc (c₁ * 10 ^ e₁ : ℚ) < 10 ^ (e₁ + width c₁) := magnitude_lt c₁ e₁
    _ ≤ 10 ^ (e₂ + width c₂ - 1) := zpow_le_zpow_right₀ (by norm_num) (by omega)
    _ ≤ c₂ * 10 ^ e₂ := le_magnitude hc₂ e₂

/-- The digits that are compared are those of the numbers at the lower one of both places. -/
theorem scaled_eq (c : Nat) (e₁ e₂ : Int) :
    ((c * Nat.pow 10 (e₁ - e₂).toNat : Nat) : ℚ) * 10 ^ min e₁ e₂ = c * 10 ^ e₁ := by
  have hexponent : ((e₁ - e₂).toNat : Int) + min e₁ e₂ = e₁ := by omega
  have hpow : Nat.pow 10 (e₁ - e₂).toNat = 10 ^ (e₁ - e₂).toNat := rfl
  rw [hpow, Nat.cast_mul, Nat.cast_pow, Nat.cast_ofNat, mul_assoc, ← zpow_natCast,
    ← zpow_add₀ (by norm_num), hexponent]

/-- Magnitudes compare as the numbers do. -/
theorem compares_compareMagnitude {c₁ c₂ : Nat} {e₁ e₂ : Int} (hc₁ : c₁ ≠ 0) (hc₂ : c₂ ≠ 0) :
    (compareMagnitude c₁ e₁ c₂ e₂).Compares (c₁ * 10 ^ e₁ : ℚ) (c₂ * 10 ^ e₂) := by
  rw [compareMagnitude]
  cases hplace : Ord.compare (e₁ + width c₁) (e₂ + width c₂) with
  | lt => exact magnitude_lt_of_place hc₂ (compare_lt_iff_lt.1 hplace)
  | gt => exact magnitude_lt_of_place hc₁ (compare_gt_iff_gt.1 hplace)
  | eq =>
    have hscale : StrictMono fun n : Nat => (n : ℚ) * 10 ^ min e₁ e₂ :=
      Nat.strictMono_cast.mul_const (by positivity)
    have hdigits := compares_map hscale
      (cmp_compares (c₁ * Nat.pow 10 (e₁ - e₂).toNat) (c₂ * Nat.pow 10 (e₂ - e₁).toNat))
    rw [cmp_eq_compare] at hdigits
    rw [scaled_eq c₁ e₁ e₂, min_comm, scaled_eq c₂ e₂ e₁] at hdigits
    exact hdigits

/-- What a decimal is by its sign. -/
theorem sign_cases (d : Decimal) :
    d.sign = 0 ∧ d.toRat = 0 ∨
      d.coefficient ≠ 0 ∧ (d.sign = -1 ∧ d.toRat = -(d.coefficient * 10 ^ d.exponent) ∨
        d.sign = 1 ∧ d.toRat = d.coefficient * 10 ^ d.exponent) := by
  obtain ⟨negative, c, e⟩ := d
  by_cases hc : c = 0
  · exact .inl ⟨if_pos hc, by rw [toRat, hc, Nat.cast_zero, zero_mul, mul_zero]⟩
  · refine .inr ⟨hc, ?_⟩
    rw [sign, if_neg hc]
    cases negative with
    | true => exact .inl ⟨rfl, toRat_of_negative c e⟩
    | false => exact .inr ⟨rfl, toRat_of_not_negative c e⟩

/-- Decimals compare as their values do. -/
theorem compares_compare (a b : Decimal) : (a.compare b).Compares a.toRat b.toRat := by
  have hpos {d : Decimal} (hd : d.coefficient ≠ 0) : (0 : ℚ) < d.coefficient * 10 ^ d.exponent := by
    positivity
  -- The magnitudes decide only where the signs are the same, and for negative numbers the other way.
  rw [compare]
  rcases a.sign_cases with ⟨hs, ha⟩ | ⟨hca, ⟨hs, ha⟩ | ⟨hs, ha⟩⟩ <;>
    rcases b.sign_cases with ⟨ht, hb⟩ | ⟨hcb, ⟨ht, hb⟩ | ⟨ht, hb⟩⟩ <;>
    rw [hs, ht, ha, hb]
  · exact rfl
  · exact neg_lt_zero.2 (hpos hcb)
  · exact hpos hcb
  · exact neg_lt_zero.2 (hpos hca)
  · have hmagnitude : (compareMagnitude a.coefficient a.exponent b.coefficient b.exponent).Compares
        (a.coefficient * 10 ^ a.exponent : ℚ) (b.coefficient * 10 ^ b.exponent) :=
      compares_compareMagnitude hca hcb
    change (compareMagnitude _ _ _ _).swap.Compares _ _
    cases hm : compareMagnitude a.coefficient a.exponent b.coefficient b.exponent <;>
      rw [hm] at hmagnitude
    · exact neg_lt_neg hmagnitude
    · exact congrArg Neg.neg hmagnitude
    · exact neg_lt_neg hmagnitude
  · exact (neg_lt_zero.2 (hpos hca)).trans (hpos hcb)
  · exact hpos hca
  · exact (neg_lt_zero.2 (hpos hcb)).trans (hpos hca)
  · exact compares_compareMagnitude hca hcb

end Decimal

/-! ## Binary numbers -/

namespace Binary64

/-- The value of a binary number; NaN has none. -/
def toExtended? : Binary64 → Option Extended
  | .finite negative units =>
    some (((if negative then -units else units : Int) / unitsPerOne : ℚ) : WithTop ℚ)
  | .infinite negative => some (if negative then ⊥ else ⊤)
  | .nan => none

/-- The number is one of 64 bits: it is not so large that it should be infinite. -/
inductive IsProper : Binary64 → Prop
  | finite {negative : Bool} {units : Nat} : units < unitsLimit → IsProper (.finite negative units)
  | infinite {negative : Bool} : IsProper (.infinite negative)
  | nan : IsProper .nan

/-- The value that a key stands for, up to the keys of the infinite numbers. -/
def ofKey (k : Int) : Extended :=
  if k ≤ -unitsLimit then ⊥ else if unitsLimit ≤ k then ⊤ else ((k / unitsPerOne : ℚ) : WithTop ℚ)

variable {x y : Binary64} {o : Ordering}

theorem two_pow_pos (k : Nat) : 0 < Nat.pow 2 k := Nat.pow_pos Nat.two_pos

theorem unitsPerOne_pos : 0 < unitsPerOne := by
  unfold unitsPerOne
  -- The power is not to be computed, here nor below.
  generalize 1074 = k
  exact two_pow_pos k

theorem unitsLimit_pos : 0 < unitsLimit := by
  unfold unitsLimit
  generalize 2098 = k
  exact two_pow_pos k

theorem strictMono_units : StrictMono fun n : Int => (n / unitsPerOne : ℚ) := fun _ _ hmn =>
  div_lt_div_of_pos_right (Int.cast_lt.2 hmn) (Nat.cast_pos.2 unitsPerOne_pos)

/-- Keys are in the order of the values that they stand for. -/
theorem ofKey_lt {j k : Int} (hj : -unitsLimit ≤ j) (hjk : j < k) (hk : k ≤ unitsLimit) :
    ofKey j < ofKey k := by
  -- Only the lower key can be that of the least number, and only the upper one that of the greatest.
  have hnotj : ¬(unitsLimit : Int) ≤ j := by omega
  have hnotk : ¬k ≤ -(unitsLimit : Int) := by omega
  simp only [ofKey, if_neg hnotj, if_neg hnotk]
  by_cases hj' : j ≤ -(unitsLimit : Int)
  · rw [if_pos hj']
    split
    · exact WithBot.bot_lt_coe _
    · exact WithBot.bot_lt_coe _
  · rw [if_neg hj']
    split
    · exact WithBot.coe_lt_coe.2 (WithTop.coe_lt_top _)
    · exact Extended.strictMono_coe (strictMono_units hjk)

/-- The key of a number of 64 bits stands for its value. -/
theorem toExtended?_of_key? {k : Int} (hx : x.IsProper) (hk : x.key? = some k) :
    x.toExtended? = some (ofKey k) ∧ -unitsLimit ≤ k ∧ k ≤ unitsLimit := by
  have hlimit := unitsLimit_pos
  cases x with
  | nan => cases hk
  | infinite negative =>
    cases negative with
    | true =>
      obtain rfl := Option.some.inj hk
      exact ⟨congrArg some (if_pos (le_refl _)).symm, by simp only [if_true]; omega⟩
    | false =>
      obtain rfl := Option.some.inj hk
      refine ⟨congrArg some ?_, by simp only [Bool.false_eq_true, if_false]; omega⟩
      simp only [Bool.false_eq_true, if_false, ofKey]
      rw [if_neg (by omega), if_pos (le_refl _)]
  | finite negative units =>
    obtain rfl := Option.some.inj hk
    have hbounds : -(unitsLimit : Int) < (if negative then -units else units : Int) ∧
        (if negative then -units else units : Int) < unitsLimit := by
      obtain ⟨hunits⟩ := hx
      split <;> omega
    refine ⟨?_, hbounds.1.le, hbounds.2.le⟩
    rw [toExtended?, ofKey, if_neg (not_le.2 hbounds.1), if_neg (not_le.2 hbounds.2)]

/-- Binary numbers of 64 bits compare as their values do. -/
theorem compares_of_compare? (hx : x.IsProper) (hy : y.IsProper) (ho : x.compare? y = some o) :
    ∃ a b, x.toExtended? = some a ∧ y.toExtended? = some b ∧ o.Compares a b := by
  obtain ⟨j, hj, ho⟩ := Option.bind_eq_some_iff.1 ho
  obtain ⟨k, hk, ho⟩ := Option.bind_eq_some_iff.1 ho
  obtain ⟨hxj, hj₁, hj₂⟩ := toExtended?_of_key? hx hj
  obtain ⟨hyk, hk₁, hk₂⟩ := toExtended?_of_key? hy hk
  refine ⟨_, _, hxj, hyk, ?_⟩
  have hcompares : o.Compares j k := by
    rw [← Option.some.inj ho, ← cmp_eq_compare]
    exact cmp_compares j k
  cases o with
  | lt => exact ofKey_lt hj₁ hcompares hk₂
  | eq => exact congrArg ofKey hcompares
  | gt => exact ofKey_lt hk₁ hcompares hj₂

end Binary64

end Numeral

/-! ## Numbers of all kinds -/

namespace Number

open Numeral

/-- The value of a number; NaN has none. -/
def toExtended? : Number → Option Extended
  | .int n => some ((n : ℚ) : WithTop ℚ)
  | .float x => x.toExtended?
  | .decimal d => some ((d.toRat : ℚ) : WithTop ℚ)

/-- The number is one that exists: binary numbers have 64 bits. -/
def IsProper : Number → Prop
  | .float x => x.IsProper
  | _ => True

variable {a b : Number} {o : Ordering}

theorem toRat_ofInt (n : Int) : (Decimal.ofInt n).toRat = n := by
  rw [Decimal.ofInt]
  by_cases hn : n < 0
  · rw [decide_eq_true hn, Decimal.toRat_of_negative, zpow_zero, mul_one, Nat.cast_natAbs,
      abs_of_neg hn, Int.cast_neg, neg_neg]
  · rw [decide_eq_false hn, Decimal.toRat_of_not_negative, zpow_zero, mul_one, Nat.cast_natAbs,
      abs_of_nonneg (not_lt.1 hn)]

/-- A power of five at a power of ten is one of two. -/
theorem mul_pow_five (n k : Nat) :
    ((n * Nat.pow 5 k : Nat) : ℚ) * 10 ^ (-(k : Int)) = n / (Nat.pow 2 k : Nat) := by
  have hten : (10 : ℚ) ^ k = 2 ^ k * 5 ^ k := by rw [← mul_pow]; norm_num
  rw [Nat.pow_eq, Nat.pow_eq, Nat.cast_mul, Nat.cast_pow, Nat.cast_pow, zpow_neg, zpow_natCast, hten]
  push_cast
  field_simp

theorem toRat_ofUnits (negative : Bool) (units : Nat) :
    (Decimal.ofUnits negative units).toRat =
      ((if negative then -units else units : Int) / Binary64.unitsPerOne : ℚ) := by
  have hexponent : (-1074 : Int) = -((1074 : Nat) : Int) := rfl
  simp only [Decimal.ofUnits, hexponent]
  unfold Binary64.unitsPerOne
  generalize 1074 = k
  cases negative with
  | true =>
    rw [Decimal.toRat_of_negative, mul_pow_five, if_pos rfl, Int.cast_neg, Int.cast_natCast, neg_div]
  | false =>
    rw [Decimal.toRat_of_not_negative, mul_pow_five, if_neg Bool.false_ne_true, Int.cast_natCast]

/-- The decimal of a number has its value. -/
theorem toExtended?_of_decimal? {d : Decimal} (hd : a.decimal? = some d) :
    a.toExtended? = some ((d.toRat : ℚ) : WithTop ℚ) := by
  match a, hd with
  | .int n, hd =>
    obtain rfl := Option.some.inj hd
    rw [toRat_ofInt]
    rfl
  | .float (.finite negative units), hd =>
    obtain rfl := Option.some.inj hd
    rw [toRat_ofUnits]
    rfl
  | .decimal d, hd =>
    obtain rfl := Option.some.inj hd
    rfl

/-- Where a number is among the finite ones: it is one of them, infinite or NaN. -/
theorem side?_cases (a : Number) :
    (∃ d, a.decimal? = some d ∧ a.side? = some 0) ∨ (∃ negative, a = .float (.infinite negative)) ∨
      a.side? = none := by
  match a with
  | .int n => exact .inl ⟨_, rfl, rfl⟩
  | .float (.finite _ _) => exact .inl ⟨_, rfl, rfl⟩
  | .float (.infinite negative) => exact .inr (.inl ⟨negative, rfl⟩)
  | .float .nan => exact .inr (.inr rfl)
  | .decimal d => exact .inl ⟨d, rfl, rfl⟩

/-- A finite number lies between the infinite ones. -/
theorem compares_infinite (q : ℚ) (negative : Bool) :
    (compare 0 (if negative then -1 else 1 : Int)).Compares ((q : WithTop ℚ) : Extended)
      (if negative then ⊥ else ⊤) := by
  cases negative with
  | true => exact WithBot.bot_lt_coe _
  | false => exact WithBot.coe_lt_coe.2 (WithTop.coe_lt_top q)

theorem infinite_compares (q : ℚ) (negative : Bool) :
    (compare (if negative then -1 else 1 : Int) 0).Compares
      (if negative then ⊥ else ⊤) ((q : WithTop ℚ) : Extended) := by
  cases negative with
  | true => exact WithBot.bot_lt_coe _
  | false => exact WithBot.coe_lt_coe.2 (WithTop.coe_lt_top q)

/-- How two numbers compare is how their values do. -/
theorem compares_of_order? (ha : a.IsProper) (hb : b.IsProper) (ho : a.order? b = some o) :
    ∃ x y, a.toExtended? = some x ∧ b.toExtended? = some y ∧ o.Compares x y := by
  unfold order? at ho
  split at ho
  · rename_i m n
    have hcompares : o.Compares m n := by
      rw [← Option.some.inj ho]
      exact cmp_eq_compare m n ▸ cmp_compares m n
    exact ⟨_, _, rfl, rfl, compares_map (Extended.strictMono_coe.comp Int.cast_strictMono) hcompares⟩
  · exact Binary64.compares_of_compare? ha hb ho
  · rename_i hfloats
    split at ho
    · rename_i d e hd he
      refine ⟨_, _, toExtended?_of_decimal? hd, toExtended?_of_decimal? he, ?_⟩
      rw [← Option.some.inj ho]
      exact compares_map Extended.strictMono_coe (d.compares_compare e)
    · -- One of the numbers is no decimal; it is infinite, since NaN has no side.
      rename_i hnone
      obtain ⟨i, hi, ho⟩ := Option.bind_eq_some_iff.1 ho
      obtain ⟨j, hj, ho⟩ := Option.bind_eq_some_iff.1 ho
      rw [← Option.some.inj ho]
      rcases a.side?_cases with ⟨d, hd, ha⟩ | ⟨negative, rfl⟩ | ha
      · rcases b.side?_cases with ⟨e, he, -⟩ | ⟨negative, rfl⟩ | hb
        · exact absurd he (hnone d e hd)
        · rw [← Option.some.inj (ha.symm.trans hi), ← Option.some.inj hj]
          exact ⟨_, _, toExtended?_of_decimal? hd, rfl, compares_infinite d.toRat negative⟩
        · cases hb.symm.trans hj
      · rcases b.side?_cases with ⟨e, he, hb⟩ | ⟨negative', rfl⟩ | hb
        · rw [← Option.some.inj (hb.symm.trans hj), ← Option.some.inj hi]
          exact ⟨_, _, rfl, toExtended?_of_decimal? he, infinite_compares e.toRat negative⟩
        · exact absurd rfl (hfloats _ _ rfl)
        · cases hb.symm.trans hj
      · cases ha.symm.trans hi

/-- Numbers that are equal have the same value. -/
theorem toExtended?_eq_of_equal (ha : a.IsProper) (hb : b.IsProper) (hab : a.equal b = true) :
    a.toExtended? = b.toExtended? := by
  obtain ⟨x, y, hx, hy, rfl⟩ := compares_of_order? ha hb (of_decide_eq_true hab)
  rw [hx, hy]

end Number

end TypedHeaders
