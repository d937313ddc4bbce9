import TypedHeaders.Numeral.Scientific
import TypedHeaders.Proofs.Digits
import TypedHeaders.Proofs.Results

/-!
# Scientific notation as it is written

A number is written with a sign or none, with digits of any script and at most one
point before, among or after them, and with an exponent or none: a letter, a sign or
none, and digits. Before the exponent there is a digit at least
(`Scientific.Written`).

Just the texts that are so written are read, as the number that they write
(`Scientific.parse_eq_some_iff`). Each part ends where the next one begins, since no
digit is a sign, a point or the letter of an exponent (`digit?_eq_none`).
-/

namespace TypedHeaders.Numeral

/-! ## Digits of any script -/

theorem digit?_of_isDigit {c : Char} (hc : c.isDigit = true) :
    Text.digit? c = some (digitValue c) := by
  obtain ⟨hle, hge⟩ := toNat_of_isDigit hc
  have hfirst : Text.decimalDigits.ranges.find? (fun r => r.1 ≤ c.toNat && c.toNat ≤ r.2) =
      some (0x30, 0x39) := List.find?_cons_of_pos (by simp [hle, hge])
  rw [Text.digit?, hfirst]
  exact congrArg some (Nat.mod_eq_of_lt (digitValue_lt_ten hc))

/-- What stands between digits is none. -/
theorem digit?_eq_none {c : Char} (hc : c ∈ ['+', '-', '.', 'e', 'E']) : Text.digit? c = none := by
  have hall : ['+', '-', '.', 'e', 'E'].all (fun c => (Text.digit? c).isNone) = true := by decide
  simpa using List.all_eq_true.1 hall c hc

/-- No digit is a sign, whatever its script. -/
theorem ne_sign_of_digit? {c : Char} {d : Nat} (hc : Text.digit? c = some d) :
    c ≠ '-' ∧ c ≠ '+' := by
  constructor <;> rintro rfl <;> cases hc

namespace Scientific

/-! ## The grammar -/

/-- A point and the digits after it, with their values; all of it may be missing. -/
inductive FractionWritten : List Char → List Nat → Prop
  | none : FractionWritten [] []
  | point {digits : List Char} {ds : List Nat} (hdigits : AreDigits Text.digit? digits ds) :
    FractionWritten ('.' :: digits) ds

/-- The letter of an exponent, its sign and its digits; all of it may be missing, for zero. -/
inductive ExponentWritten : List Char → Int → Prop
  | none : ExponentWritten [] 0
  | some {letter : Char} {sign digits : List Char} {negative : Bool} {ds : List Nat}
    (hletter : letter = 'e' ∨ letter = 'E') (hsign : IsSign sign negative)
    (hdigits : AreDigits Text.digit? digits ds) (hne : ds ≠ []) :
    ExponentWritten (letter :: (sign ++ digits))
      (if negative then -(ofDigits ds : Int) else ofDigits ds)

/-- The text writes the number. -/
inductive Written : List Char → Scientific → Prop
  | intro {sign whole point power : List Char} {negative : Bool} {ws fs : List Nat} {e : Int}
    (hsign : IsSign sign negative) (hwhole : AreDigits Text.digit? whole ws)
    (hpoint : FractionWritten point fs) (hne : ws ++ fs ≠ []) (hpower : ExponentWritten power e) :
    Written (sign ++ (whole ++ (point ++ power))) ⟨negative, ws ++ fs, e - fs.length⟩

/-- A sign and digits of ASCII write an integer. -/
theorem written_integer {sign digits : List Char} {negative : Bool} (hsign : IsSign sign negative)
    (hne : digits ≠ []) (hdigits : ∀ c ∈ digits, c.isDigit = true) :
    Written (sign ++ digits) ⟨negative, digits.map digitValue, 0⟩ := by
  have hvalues : AreDigits Text.digit? digits (digits.map digitValue) :=
    AreDigits.of_forall fun c hc => digit?_of_isDigit (hdigits c hc)
  have htext := Written.intro hsign hvalues .none (by simpa using hne) .none
  simpa using htext

/-- There is nothing in the text but digits and what stands between them. -/
theorem Written.mem_cases {s : List Char} {x : Scientific} (h : Written s x) {c : Char}
    (hc : c ∈ s) : (Text.digit? c).isSome = true ∨ c ∈ ['+', '-', '.', 'e', 'E'] := by
  have hdigit {digits : List Char} {ds : List Nat} (hdigits : AreDigits Text.digit? digits ds)
      (hc : c ∈ digits) : (Text.digit? c).isSome = true := by
    obtain ⟨d, -, hd⟩ := exists_of_forall₂ hdigits.flip hc
    exact Option.isSome_iff_exists.2 ⟨d, hd⟩
  have hsigned {sign : List Char} {negative : Bool} (hsign : IsSign sign negative) (hc : c ∈ sign) :
      c ∈ ['+', '-', '.', 'e', 'E'] := List.mem_append_left ['.', 'e', 'E'] (hsign.mem hc)
  obtain ⟨hsign, hwhole, hpoint, -, hpower⟩ := h
  rw [List.mem_append, List.mem_append, List.mem_append] at hc
  rcases hc with hc | hc | hc | hc
  · exact .inr (hsigned hsign hc)
  · exact .inl (hdigit hwhole hc)
  · cases hpoint with
    | none => cases hc
    | point hdigits =>
      rcases List.mem_cons.1 hc with rfl | hc
      · exact .inr (by decide)
      · exact .inl (hdigit hdigits hc)
  · cases hpower with
    | none => cases hc
    | some hletter hsign hdigits =>
      rw [List.mem_cons, List.mem_append] at hc
      rcases hc with rfl | hc | hc
      · rcases hletter with rfl | rfl <;> exact .inr (by decide)
      · exact .inr (hsigned hsign hc)
      · exact .inl (hdigit hdigits hc)

/-! ## Reading the parts -/

variable {s point power : List Char} {fs : List Nat} {e : Int}

theorem ExponentWritten.head (h : ExponentWritten power e) :
    ∀ c ∈ power.head?, c = 'e' ∨ c = 'E' := by
  cases h with
  | none => simp
  | some hletter => simpa using hletter

/-- After the digits before the point there is none. -/
theorem head_of_written (hpoint : FractionWritten point fs) (hpower : ExponentWritten power e) :
    ∀ c ∈ (point ++ power).head?, c ∈ ['+', '-', '.', 'e', 'E'] ∧ c ≠ '-' ∧ c ≠ '+' := by
  intro c hc
  cases hpoint with
  | none =>
    rcases hpower.head c hc with rfl | rfl <;> decide
  | point hdigits =>
    obtain rfl : '.' = c := by simpa using hc
    decide

theorem takeFraction_append (hpoint : FractionWritten point fs) (hpower : ExponentWritten power e) :
    takeFraction (point ++ power) = (fs, power) := by
  cases hpoint with
  | none =>
    rw [List.nil_append]
    unfold takeFraction
    split
    · rcases hpower.head '.' rfl with h | h <;> cases h
    · rfl
  | point hdigits =>
    refine spanDigits_append hdigits fun c hc => digit?_eq_none ?_
    rcases hpower.head c hc with rfl | rfl <;> decide

theorem exists_takeFraction (s : List Char) :
    ∃ point, FractionWritten point (takeFraction s).1 ∧ s = point ++ (takeFraction s).2 := by
  unfold takeFraction
  split
  · rename_i rest
    obtain ⟨digits, hdigits, hrest⟩ := exists_spanDigits Text.digit? rest
    exact ⟨'.' :: digits, .point hdigits, congrArg ('.' :: ·) hrest⟩
  · exact ⟨[], .none, rfl⟩

theorem readExponent_of_written (h : ExponentWritten power e) : readExponent power = some e := by
  cases h with
  | none => rfl
  | @some letter sign digits negative ds hletter hsign hdigits hne =>
    have hhead : ∀ c ∈ digits.head?, c ≠ '-' ∧ c ≠ '+' := by
      intro c hc
      cases hdigits with
      | nil => cases hc
      | cons hd _ => exact ne_sign_of_digit? (Option.some.inj hc ▸ hd)
    obtain ⟨d, ds, rfl⟩ := List.exists_cons_of_ne_nil hne
    simp only [readExponent, if_pos hletter, takeSign_append hsign hhead,
      spanDigits_eq_self hdigits]

theorem written_of_readExponent (h : readExponent s = some e) : ExponentWritten s e := by
  unfold readExponent at h
  split at h
  · rw [← Option.some.inj h]
    exact .none
  · rename_i letter rest
    split at h
    · rename_i hletter
      obtain ⟨sign, hsign, hrest⟩ := exists_sign rest
      obtain ⟨digits, hdigits, hspan⟩ := exists_spanDigits Text.digit? (takeSign rest).2
      dsimp only at h
      split at h
      · rename_i d ds hds
        rw [hds] at hdigits hspan
        have htext := ExponentWritten.some hletter hsign hdigits (List.cons_ne_nil d ds)
        rw [List.append_nil] at hspan
        rwa [← hspan, ← hrest, Option.some.inj h] at htext
      · cases h
    · cases h

/-! ## Reading a number -/

variable {x : Scientific}

theorem parse_of_written (h : Written s x) : parse s = some x := by
  obtain ⟨hsign, hwhole, hpoint, hne, hpower⟩ := h
  rename_i sign whole point power negative ws fs e
  have hrest := head_of_written hpoint hpower
  have hhead : ∀ c ∈ (whole ++ (point ++ power)).head?, c ≠ '-' ∧ c ≠ '+' := by
    intro c hc
    cases hwhole with
    | nil => exact (hrest c hc).2
    | cons hd _ => exact ne_sign_of_digit? (Option.some.inj hc ▸ hd)
  have hspan := spanDigits_append hwhole fun c hc => digit?_eq_none (hrest c hc).1
  have hsome : ¬(ws.isEmpty && fs.isEmpty) = true := by
    simpa using hne
  simp only [parse, takeSign_append hsign hhead, hspan, takeFraction_append hpoint hpower,
    if_neg hsome, readExponent_of_written hpower, Option.map_some]

theorem written_of_parse (h : parse s = some x) : Written s x := by
  obtain ⟨sign, hsign, hs⟩ := exists_sign s
  obtain ⟨whole, hwhole, hafter⟩ := exists_spanDigits Text.digit? (takeSign s).2
  obtain ⟨point, hpoint, hrest⟩ :=
    exists_takeFraction (spanDigits Text.digit? (takeSign s).2).2
  simp only [parse] at h
  split at h
  · cases h
  · rename_i hsome
    obtain ⟨e, he, rfl⟩ := Option.map_eq_some_iff.1 h
    have htext := Written.intro hsign hwhole hpoint (by simpa using hsome)
      (written_of_readExponent he)
    rwa [← hrest, ← hafter, ← hs] at htext

/-- A text is read as the number that it writes. -/
theorem parse_eq_some_iff : parse s = some x ↔ Written s x :=
  ⟨written_of_parse, parse_of_written⟩

end Scientific

end TypedHeaders.Numeral
