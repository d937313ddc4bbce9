import Mathlib
import TypedHeaders.Text.Blank

/-!
# Trimming

Trimming leaves a text alone exactly if it has no character of the class at its ends
(`IsTrimmed`), which is how every text that was trimmed is. Characters of the class
that are put before a text or after it are trimmed away again (`trim_append`).
-/

namespace TypedHeaders.Text

variable {k : CharClass} {s before after : List Char}

/-! ## One end -/

theorem trimStart_eq_self (hs : ∀ c ∈ s.head?, k.contains c = false) : trimStart k s = s := by
  cases s with
  | nil => rfl
  | cons c s => rw [trimStart, List.dropWhile_cons_of_neg (by simp [hs c rfl])]

theorem head_trimStart (s : List Char) : ∀ c ∈ (trimStart k s).head?, k.contains c = false := by
  intro c hc
  rw [trimStart] at hc
  have := List.head?_dropWhile_not k.contains s
  rw [Option.mem_def.1 hc] at this
  exact Bool.eq_false_iff.2 (by simpa using this)

theorem trimStart_append (hbefore : ∀ c ∈ before, k.contains c = true) :
    trimStart k (before ++ s) = trimStart k s := List.dropWhile_append_of_pos hbefore

theorem trimEnd_append (hafter : ∀ c ∈ after, k.contains c = true) :
    trimEnd k (s ++ after) = trimEnd k s := by
  rw [trimEnd, List.reverse_append, trimStart_append fun c hc => hafter c (List.mem_reverse.1 hc),
    trimEnd]

/-! ## Both ends -/

theorem trim_eq_self (hhead : ∀ c ∈ s.head?, k.contains c = false)
    (hlast : ∀ c ∈ s.getLast?, k.contains c = false) : trim k s = s := by
  rw [trim, trimStart_eq_self hhead, trimEnd, trimStart_eq_self, List.reverse_reverse]
  rwa [List.head?_reverse]

/-- A text that was trimmed has nothing left at its end. -/
theorem getLast_trim (s : List Char) : ∀ c ∈ (trim k s).getLast?, k.contains c = false := by
  rw [trim, trimEnd, List.getLast?_reverse]
  exact head_trimStart _

/-- And nothing at its start, since it still starts as it did before its end was trimmed. -/
theorem head_trim (s : List Char) : ∀ c ∈ (trim k s).head?, k.contains c = false := by
  intro c hc
  obtain ⟨rest, hrest⟩ : trim k s <+: trimStart k s :=
    List.rdropWhile_prefix k.contains (trimStart k s)
  refine head_trimStart s c ?_
  cases htrim : trim k s with
  | nil => rw [htrim] at hc; cases hc
  | cons d t =>
    rw [htrim] at hrest hc
    rw [← hrest]
    exact hc

/-- What is put around a text is trimmed as far as the text itself is, or else the text is all
    trimmed away. -/
theorem trim_append (hbefore : ∀ c ∈ before, k.contains c = true)
    (hafter : ∀ c ∈ after, k.contains c = true) : trim k (before ++ s ++ after) = trim k s := by
  have hstart : trimStart k (s ++ after) = trimStart k s ++ after ∨
      trimStart k (s ++ after) = [] ∧ trimStart k s = [] := by
    have hnil : trimStart k after = [] := List.dropWhile_eq_nil_iff.2 hafter
    rw [trimStart, trimStart, List.dropWhile_append]
    cases hs : s.dropWhile k.contains with
    | nil => exact .inr ⟨hnil, rfl⟩
    | cons c rest => exact .inl rfl
  rw [trim, List.append_assoc, trimStart_append hbefore]
  rcases hstart with hs | ⟨hs, hnil⟩
  · rw [hs, trimEnd_append hafter, trim]
  · rw [hs, trim, hnil]

/-! ## Trimmed texts -/

/-- The text has no character of the class at its ends. -/
structure IsTrimmed (k : CharClass) (s : List Char) : Prop where
  head : ∀ c ∈ s.head?, k.contains c = false
  last : ∀ c ∈ s.getLast?, k.contains c = false

theorem isTrimmed_trim (s : List Char) : IsTrimmed k (trim k s) := ⟨head_trim s, getLast_trim s⟩

theorem trim_eq_self_iff : trim k s = s ↔ IsTrimmed k s :=
  ⟨fun h => h ▸ isTrimmed_trim s, fun h => trim_eq_self h.head h.last⟩

instance (k : CharClass) (s : List Char) : Decidable (IsTrimmed k s) :=
  decidable_of_iff _ trim_eq_self_iff

theorem IsTrimmed.of_forall (hs : ∀ c ∈ s, k.contains c = false) : IsTrimmed k s :=
  ⟨fun c hc => hs c (List.mem_of_mem_head? hc), fun c hc => hs c (List.mem_of_getLast? hc)⟩

end TypedHeaders.Text
