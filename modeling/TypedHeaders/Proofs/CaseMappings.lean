import TypedHeaders.Proofs.Blanks
import TypedHeaders.Text.Casing

/-!
# Texts in one case

A text in upper case is its own upper-case form (`upperCase_eq_self`), and a text in
lower case its own lower-case form (`lowerFrom_eq_self`), since no character that a
mapping gives is moved by it (`isUpper_of_mem_upperCase`, `isLower_of_mem_lowerFrom`).
The tables are compared as sets of code points, which are the bits of a number
(`bitsOf`), since there are too many pairs of their entries.

Either form of a text has one character or more for each character of the text,
and white space only for white space (`Expands`). So it is no shorter than the
text, and it has no white space at its ends if the text has none
(`Expands.trim_eq`).
-/

namespace TypedHeaders.Text

/-! ## Sets of code points -/

/-- The number of which these bits are set. -/
def bitsOf : List Nat → Nat
  | [] => 0
  | n :: ns => 1 <<< n ||| bitsOf ns

/-- The number of which the bits in any of the lists are set. -/
def bitsOfAll : List (List Nat) → Nat
  | [] => 0
  | ns :: rest => bitsOf ns ||| bitsOfAll rest

theorem testBit_bitsOf {n : Nat} {ns : List Nat} (hn : n ∈ ns) : (bitsOf ns).testBit n = true := by
  induction ns with
  | nil => cases hn
  | cons m ns ih =>
    rw [bitsOf, Nat.testBit_or, Nat.testBit_shiftLeft, Bool.or_eq_true]
    rcases List.mem_cons.1 hn with rfl | hn
    · exact .inl (by simp)
    · exact .inr (ih hn)

theorem testBit_bitsOfAll {n : Nat} {ns : List Nat} {lists : List (List Nat)} (hns : ns ∈ lists)
    (hn : n ∈ ns) : (bitsOfAll lists).testBit n = true := by
  induction lists with
  | nil => cases hns
  | cons ms lists ih =>
    rw [bitsOfAll, Nat.testBit_or, Bool.or_eq_true]
    rcases List.mem_cons.1 hns with rfl | hns
    · exact .inl (testBit_bitsOf hn)
    · exact .inr (ih hns)

/-- Numbers without a common bit stand for lists without a common member. -/
theorem not_mem_of_bitsOfAll {as bs : List (List Nat)} (h : bitsOfAll as &&& bitsOfAll bs = 0)
    {n : Nat} {ns : List Nat} (hns : ns ∈ as) (hn : n ∈ ns) : ∀ ms ∈ bs, n ∉ ms := by
  intro ms hms hm
  have hbit : (bitsOfAll as &&& bitsOfAll bs).testBit n = true := by
    rw [Nat.testBit_and, testBit_bitsOfAll hns hn, testBit_bitsOfAll hms hm, Bool.and_true]
  rw [h, Nat.zero_testBit] at hbit
  cases hbit

/-- The code points of a class. -/
def CharClass.points (k : CharClass) : List (List Nat) :=
  k.ranges.map fun r => List.range' r.1 (r.2 - r.1 + 1)

theorem CharClass.not_contains {k : CharClass} {c : Char} (hc : ∀ ns ∈ k.points, c.toNat ∉ ns) :
    k.contains c = false := by
  rw [contains, List.any_eq_false]
  intro r hr hin
  rw [Bool.and_eq_true, decide_eq_true_eq, decide_eq_true_eq] at hin
  exact hc _ (List.mem_map_of_mem hr) (List.mem_range'_1.2 ⟨hin.1, by omega⟩)

/-! ## Runs -/

namespace CaseRun

/-- The code points that the run moves. -/
def sources (r : CaseRun) : List Nat :=
  (List.range ((r.last - r.first) / r.step + 1)).map fun i => r.first + i * r.step

/-- The code points that it moves them to. -/
def images (r : CaseRun) : List Nat :=
  r.sources.map fun (n : Nat) => (Char.ofNat (n + r.shift).toNat).toNat

variable {r : CaseRun}

theorem mem_sources {n : Nat} (hn : r.covers n = true) : n ∈ r.sources := by
  rw [covers, Bool.and_eq_true, Bool.and_eq_true, decide_eq_true_eq, decide_eq_true_eq,
    beq_iff_eq] at hn
  obtain ⟨⟨hfirst, hlast⟩, hstep⟩ := hn
  have hle : (n - r.first) / r.step ≤ (r.last - r.first) / r.step :=
    Nat.div_le_div_right (Nat.sub_le_sub_right hlast _)
  refine List.mem_map.2 ⟨_, List.mem_range.2 (Nat.lt_succ_of_le hle), ?_⟩
  rw [Nat.div_mul_cancel (Nat.dvd_of_mod_eq_zero hstep)]
  omega

theorem mem_images {c : Char} (hc : r.covers c.toNat = true) :
    (shiftChar c r.shift).toNat ∈ r.images := List.mem_map_of_mem (mem_sources hc)

end CaseRun

/-- A character is left alone by the runs, or mapped to an image of one of them. -/
theorem mapByRuns_eq_or_mem (runs : List CaseRun) (c : Char) :
    mapByRuns runs c = c ∨ ∃ r ∈ runs, (mapByRuns runs c).toNat ∈ r.images := by
  rw [mapByRuns]
  cases hr : runs.find? (·.covers c.toNat) with
  | none => exact .inl rfl
  | some r =>
    have hcovers : r.covers c.toNat = true := by simpa using List.find?_some hr
    exact .inr ⟨r, List.mem_of_find?_eq_some hr, CaseRun.mem_images hcovers⟩

theorem mapByRuns_eq_self {runs : List CaseRun} {c : Char}
    (hc : ∀ ns ∈ runs.map CaseRun.sources, c.toNat ∉ ns) : mapByRuns runs c = c := by
  have hnone : runs.find? (·.covers c.toNat) = none :=
    List.find?_eq_none.2 fun r hr hcovers =>
      hc _ (List.mem_map_of_mem hr) (CaseRun.mem_sources hcovers)
  rw [mapByRuns, hnone]

/-! ## Characters -/

/-- The code points that the upper-case mapping moves. -/
def upperMoved : List (List Nat) := longUpper.map (·.1) :: upperRuns.map CaseRun.sources

/-- The code points that it gives. -/
def upperForms : List (List Nat) :=
  longUpper.map (fun e => e.2.map fun n => (Char.ofNat n).toNat) ++ upperRuns.map CaseRun.images

/-- The code points that the lower-case mapping moves: U+0130 and the capital sigma have rules of
    their own. -/
def lowerMoved : List (List Nat) := ['\u0130'.toNat, 'Σ'.toNat] :: lowerRuns.map CaseRun.sources

/-- The code points that it gives. -/
def lowerForms : List (List Nat) :=
  ['i', '\u0307', 'ς', 'σ'].map Char.toNat :: lowerRuns.map CaseRun.images

theorem upperForms_disjoint :
    bitsOfAll upperForms &&& bitsOfAll (upperMoved ++ whiteSpace.points) = 0 := by decide +kernel

theorem lowerForms_disjoint :
    bitsOfAll lowerForms &&& bitsOfAll (lowerMoved ++ whiteSpace.points) = 0 := by decide +kernel

/-- The character is its own upper-case form. -/
def IsUpper (c : Char) : Prop := upperChar c = [c]

/-- The character is its own lower-case form, wherever it stands. -/
def IsLower (c : Char) : Prop := c ≠ 'Σ' ∧ lowerChar c = [c]

variable {c d : Char} {s t : List Char}

/-- What the upper-case mapping gives is in upper case, and no white space. -/
theorem of_upperForms {ns : List Nat} (hns : ns ∈ upperForms) (hd : d.toNat ∈ ns) :
    IsUpper d ∧ whiteSpace.contains d = false := by
  have hfree := not_mem_of_bitsOfAll upperForms_disjoint hns hd
  have hruns : mapByRuns upperRuns d = d := mapByRuns_eq_self fun ms hms =>
    hfree ms (List.mem_append_left _ (List.mem_cons_of_mem _ hms))
  have hlong : longUpper.lookup d.toNat = none := by
    refine List.lookup_eq_none_iff.2 fun e he => bne_iff_ne.2 fun heq => ?_
    exact hfree _ (List.mem_append_left _ List.mem_cons_self) (heq ▸ List.mem_map_of_mem he)
  refine ⟨?_, CharClass.not_contains fun ms hms => hfree ms (List.mem_append_right _ hms)⟩
  simp only [IsUpper, upperChar, hlong, hruns]

theorem isLower_of_not_moved (hc : ∀ ns ∈ lowerMoved, c.toNat ∉ ns) : IsLower c := by
  have hruns : mapByRuns lowerRuns c = c :=
    mapByRuns_eq_self fun ns hns => hc ns (List.mem_cons_of_mem _ hns)
  have hown : ∀ d ∈ ['\u0130', 'Σ'], c ≠ d := fun d hd heq =>
    hc _ List.mem_cons_self (heq ▸ List.mem_map_of_mem hd)
  refine ⟨hown 'Σ' (by simp), ?_⟩
  rw [lowerChar, if_neg (hown '\u0130' (by simp)), hruns]

/-- What the lower-case mapping gives is in lower case, and no white space. -/
theorem of_lowerForms {ns : List Nat} (hns : ns ∈ lowerForms) (hd : d.toNat ∈ ns) :
    IsLower d ∧ whiteSpace.contains d = false := by
  have hfree := not_mem_of_bitsOfAll lowerForms_disjoint hns hd
  exact ⟨isLower_of_not_moved fun ms hms => hfree ms (List.mem_append_left _ hms),
    CharClass.not_contains fun ms hms => hfree ms (List.mem_append_right _ hms)⟩

theorem upperChar_ne_nil (c : Char) : upperChar c ≠ [] := by
  rw [upperChar]
  cases hlong : longUpper.lookup c.toNat with
  | none => exact List.cons_ne_nil _ _
  | some long =>
    obtain ⟨before, after, hmem, -⟩ := List.lookup_eq_some_iff.1 hlong
    have hne : ∀ e ∈ longUpper, e.2 ≠ [] := by decide +kernel
    exact fun h => hne (c.toNat, long) (by simp [hmem]) (List.map_eq_nil_iff.1 h)

/-- The upper-case form of a character is in upper case, and white space only if the character
    is. -/
theorem of_mem_upperChar (hd : d ∈ upperChar c) :
    IsUpper d ∧ (whiteSpace.contains c = false → whiteSpace.contains d = false) := by
  rw [upperChar] at hd
  cases hlong : longUpper.lookup c.toNat with
  | none =>
    simp only [hlong, List.mem_singleton] at hd
    subst hd
    rcases mapByRuns_eq_or_mem upperRuns c with heq | ⟨r, hr, hd⟩
    · rw [heq]
      exact ⟨by simp only [IsUpper, upperChar, hlong, heq], id⟩
    · have hns : r.images ∈ upperForms := List.mem_append_right _ (List.mem_map_of_mem hr)
      exact (of_upperForms hns hd).imp_right fun h _ => h
  | some long =>
    simp only [hlong] at hd
    obtain ⟨before, after, hmem, -⟩ := List.lookup_eq_some_iff.1 hlong
    obtain ⟨n, hn, rfl⟩ := List.mem_map.1 hd
    have hns : long.map (fun n => (Char.ofNat n).toNat) ∈ upperForms := by
      refine List.mem_append_left _ (List.mem_map.2 ⟨(c.toNat, long), ?_, rfl⟩)
      simp [hmem]
    exact (of_upperForms hns (List.mem_map_of_mem hn)).imp_right fun h _ => h

theorem lowerChar_ne_nil (c : Char) : lowerChar c ≠ [] := by
  rw [lowerChar]
  split <;> exact List.cons_ne_nil _ _

/-- The lower-case form of a character other than a capital sigma is in lower case, and white space
    only if the character is. -/
theorem of_mem_lowerChar (hc : c ≠ 'Σ') (hd : d ∈ lowerChar c) :
    IsLower d ∧ (whiteSpace.contains c = false → whiteSpace.contains d = false) := by
  rw [lowerChar] at hd
  split at hd
  · have hd : d ∈ ['i', '\u0307', 'ς', 'σ'] := List.mem_append_left ['ς', 'σ'] hd
    exact (of_lowerForms List.mem_cons_self (List.mem_map_of_mem hd)).imp_right fun h _ => h
  · rename_i hdot
    obtain rfl := List.mem_singleton.1 hd
    rcases mapByRuns_eq_or_mem lowerRuns c with heq | ⟨r, hr, hd⟩
    · rw [heq]
      exact ⟨⟨hc, by rw [lowerChar, if_neg hdot, heq]⟩, id⟩
    · have hns : r.images ∈ lowerForms := List.mem_cons_of_mem _ (List.mem_map_of_mem hr)
      exact (of_lowerForms hns hd).imp_right fun h _ => h

/-- The lower-case form of a character, as it depends on its place. -/
def lowerAt (before : Bool) (c : Char) (rest : List Char) : List Char :=
  if c = 'Σ' then [if before && !startsCased rest then 'ς' else 'σ'] else lowerChar c

theorem lowerFrom_cons (before : Bool) (c : Char) (rest : List Char) :
    lowerFrom before (c :: rest) = lowerAt before c rest ++ lowerFrom (endsCased before c) rest :=
  rfl

theorem lowerAt_ne_nil (before : Bool) (c : Char) (rest : List Char) :
    lowerAt before c rest ≠ [] := by
  rw [lowerAt]
  split
  · exact List.cons_ne_nil _ _
  · exact lowerChar_ne_nil c

theorem of_mem_lowerAt {before : Bool} {rest : List Char} (hd : d ∈ lowerAt before c rest) :
    IsLower d ∧ (whiteSpace.contains c = false → whiteSpace.contains d = false) := by
  rw [lowerAt] at hd
  split at hd
  · have hd : d ∈ ['i', '\u0307', 'ς', 'σ'] := by
      rw [List.mem_singleton.1 hd]
      split <;> simp
    exact (of_lowerForms List.mem_cons_self (List.mem_map_of_mem hd)).imp_right fun h _ => h
  · rename_i hc
    exact of_mem_lowerChar hc hd

/-! ## Texts -/

/-- The text in upper case has no other upper-case form. -/
theorem upperCase_eq_self (hs : ∀ c ∈ s, IsUpper c) : upperCase s = s := by
  rw [upperCase, List.flatMap_congr hs]
  exact List.flatMap_singleton' s

theorem isUpper_of_mem_upperCase (hd : d ∈ upperCase s) : IsUpper d := by
  obtain ⟨c, -, hd⟩ := List.mem_flatMap.1 hd
  exact (of_mem_upperChar hd).1

theorem lowerFrom_eq_self {before : Bool} (hs : ∀ c ∈ s, IsLower c) : lowerFrom before s = s := by
  induction s generalizing before with
  | nil => rfl
  | cons c s ih =>
    obtain ⟨hsigma, hlower⟩ := hs c List.mem_cons_self
    rw [lowerFrom_cons, lowerAt, if_neg hsigma, hlower,
      ih fun d hd => hs d (List.mem_cons_of_mem c hd), List.singleton_append]

theorem isLower_of_mem_lowerFrom {before : Bool} (hd : d ∈ lowerFrom before s) : IsLower d := by
  induction s generalizing before with
  | nil => cases hd
  | cons c s ih =>
    rw [lowerFrom_cons] at hd
    rcases List.mem_append.1 hd with hd | hd
    · exact (of_mem_lowerAt hd).1
    · exact ih hd

/-- Without the dot that is put above a letter, no character of a text in lower case is one of
    several for the same character. -/
theorem length_lowerFrom {before : Bool} (hs : '\u0307' ∉ lowerFrom before s) :
    (lowerFrom before s).length = s.length := by
  induction s generalizing before with
  | nil => rfl
  | cons c s ih =>
    rw [lowerFrom_cons, List.mem_append, not_or] at hs
    have hone : (lowerAt before c s).length = 1 := by
      obtain ⟨hdot, -⟩ := hs
      rw [lowerAt, lowerChar] at hdot ⊢
      split
      · rfl
      · rename_i hsigma
        rw [if_neg hsigma] at hdot
        split
        · rename_i hi
          rw [if_pos hi] at hdot
          exact absurd (List.mem_cons_of_mem _ List.mem_cons_self) hdot
        · rfl
    rw [lowerFrom_cons, List.length_append, hone, ih hs.2, List.length_cons, Nat.add_comm]

/-- The second text has one character or more for each character of the first one, and white space
    only for white space. -/
inductive Expands : List Char → List Char → Prop
  | nil : Expands [] []
  | cons {c : Char} {w s t : List Char} (hne : w ≠ [])
    (hw : whiteSpace.contains c = false → ∀ d ∈ w, whiteSpace.contains d = false)
    (hs : Expands s t) : Expands (c :: s) (w ++ t)

theorem expands_refl : (s : List Char) → Expands s s
  | [] => .nil
  | c :: s =>
    .cons (List.cons_ne_nil c []) (fun hc _ hd => List.mem_singleton.1 hd ▸ hc)
      (expands_refl s)

theorem expands_upperCase : (s : List Char) → Expands s (upperCase s)
  | [] => .nil
  | c :: s =>
    .cons (upperChar_ne_nil c) (fun hc _ hd => (of_mem_upperChar hd).2 hc) (expands_upperCase s)

theorem expands_lowerFrom : (s : List Char) → (before : Bool) → Expands s (lowerFrom before s)
  | [], _ => .nil
  | c :: s, before =>
    .cons (lowerAt_ne_nil before c s) (fun hc _ hd => (of_mem_lowerAt hd).2 hc)
      (expands_lowerFrom s _)

namespace Expands

theorem length_le (h : Expands s t) : s.length ≤ t.length := by
  induction h with
  | nil => exact Nat.le_refl _
  | cons hne _ _ ih =>
    have := List.length_pos_iff.2 hne
    rw [List.length_cons, List.length_append]
    omega

/-- White space does not come to the start of a text. -/
theorem head (h : Expands s t) (hs : ∀ c ∈ s.head?, whiteSpace.contains c = false) :
    ∀ d ∈ t.head?, whiteSpace.contains d = false := by
  cases h with
  | nil => exact fun d hd => (Option.not_mem_none d hd).elim
  | @cons c w s t hne hw _ =>
    intro d hd
    rw [List.head?_append_of_ne_nil _ hne] at hd
    exact hw (hs c rfl) d (List.mem_of_mem_head? hd)

/-- White space does not come to the end of a text. -/
theorem getLast (h : Expands s t) (hs : ∀ c ∈ s.getLast?, whiteSpace.contains c = false) :
    ∀ d ∈ t.getLast?, whiteSpace.contains d = false := by
  induction h with
  | nil => exact fun d hd => (Option.not_mem_none d hd).elim
  | @cons c w s t hne hw hst ih =>
    intro d hd
    cases s with
    | nil =>
      cases hst
      rw [List.append_nil] at hd
      exact hw (hs c rfl) d (List.mem_of_getLast? hd)
    | cons c' s =>
      have ht : t ≠ [] := by
        rintro rfl
        exact absurd hst.length_le (by simp)
      rw [List.getLast?_append_of_ne_nil _ ht] at hd
      refine ih (fun e he => hs e ?_) d hd
      rwa [List.getLast?_cons_cons]

end Expands

/-- A form of a text that was trimmed has nothing left to be trimmed. -/
theorem Expands.trim_eq (h : Expands (trim whiteSpace s) t) : trim whiteSpace t = t :=
  trim_eq_self (h.head (head_trim s)) (h.getLast (getLast_trim s))

theorem trim_trim (s : List Char) : trim whiteSpace (trim whiteSpace s) = trim whiteSpace s :=
  (expands_refl (trim whiteSpace s)).trim_eq

theorem trim_upperCase (hs : trim whiteSpace s = s) :
    trim whiteSpace (upperCase s) = upperCase s :=
  (hs.symm ▸ expands_upperCase s : Expands (trim whiteSpace s) (upperCase s)).trim_eq

theorem trim_lowerCase (hs : trim whiteSpace s = s) :
    trim whiteSpace (lowerCase s) = lowerCase s :=
  (hs.symm ▸ expands_lowerFrom s false : Expands (trim whiteSpace s) (lowerCase s)).trim_eq

end TypedHeaders.Text
