import TypedHeaders.Proofs.CaseMappings
import TypedHeaders.Proofs.Results

/-!
# Templates that are filled with nothing

A template of which nothing comes consists of directives alone: it starts with a
percent sign, ends with the letter of a directive, and has no other characters
than directives have. So there is no white space at its ends
(`FillsEmpty.trim_eq`), and since the one letter of them that is in upper case
means the same in lower case, nothing comes of it in lower case either
(`FillsEmpty.lowerCase`).

In either case such a template is *plain*: it has one character for each of its
characters in the other case, so that only the case it was put into last counts
(`IsPlain.lowerCase_upperCase`, `IsPlain.upperCase_lowerCase`).
-/

namespace TypedHeaders.Template

open Text

variable {n : Number} {s s' : State} {c : Char} {place : Nat}

/-- The letters that write a number as a text, of which a precision may leave nothing. -/
def textLetters : List Char := ['s', 'r', 'a']

/-- The characters of a directive that is filled with nothing. -/
def directiveChars : List Char :=
  ['%', '-', '+', ' ', '#', '*', '.', 'h', 'l', 'L', '0', '1', '2', '3', '4', '5', '6', '7', '8',
    '9'] ++ textLetters

/-- A directive that is filled with nothing ends with the letter of a text. -/
theorem finish_of_empty (hs : s.finish n c place = .ok s') (he : s'.empty = true) :
    s.empty = true ∧ c ∈ textLetters := by
  unfold State.finish at hs
  dsimp only at hs
  split_ifs at hs with hpercent htaken htext
  · cases hs
    cases he
  · cases hs
    rw [Bool.and_eq_true, Bool.and_eq_true] at he
    exact ⟨he.1.1, htext⟩
  -- Every other letter leaves something.
  all_goals
    cases n <;> (try dsimp only at hs) <;> (try split_ifs at hs) <;> cases hs <;> cases he

/-- The directive goes on after the character. -/
structure GoesOn (s : State) (c : Char) (s' : State) : Prop where
  mem : c ∈ directiveChars
  stage : s'.stage ≠ .outside
  empty : s'.empty = s.empty

theorem mem_directiveChars_of_digit {d : Nat} (hd : asciiDigit? c = some d) :
    c ∈ directiveChars := by
  rw [asciiDigit?] at hd
  split_ifs at hd with hdigit
  simp only [Char.isDigit, Bool.and_eq_true, decide_eq_true_eq] at hdigit
  obtain ⟨hzero, hnine⟩ := hdigit
  have hpoint : 48 ≤ c.toNat ∧ c.toNat ≤ 57 := ⟨hzero, hnine⟩
  rw [← Char.ofNat_toNat c]
  generalize c.toNat = k at hpoint
  obtain ⟨hzero, hnine⟩ := hpoint
  interval_cases k <;> decide

/-- What reading a character within a directive comes to: the directive goes on, or ends. -/
def GoesOnOrFinishes (n : Number) (s : State) (c : Char) (place : Nat) (s' : State) : Prop :=
  GoesOn s c s' ∨ s.finish n c place = .ok s'

theorem goesOn_of_rest
    (hs : (if c ∈ ['h', 'l', 'L'] then .ok { s with stage := .letter } else s.finish n c place) =
      Except.ok s') : GoesOnOrFinishes n s c place s' := by
  split_ifs at hs with hc
  · cases hs
    refine .inl ⟨?_, nofun, rfl⟩
    fin_cases hc <;> decide
  · exact .inr hs

theorem goesOn_of_star {next : Stage} {r : Except Refusal State}
    (hr : r = .ok s' → GoesOnOrFinishes n s c place s')
    (hs : (if c = '*' then if c = '*' then s.takeSize n next else s.finish n c place else r) =
      .ok s') (hnext : next ≠ .outside) : GoesOnOrFinishes n s c place s' := by
  split_ifs at hs with hc
  · subst hc
    unfold State.takeSize at hs
    split at hs <;> cases hs
    exact .inl ⟨by decide, hnext, rfl⟩
  · exact hr hs

theorem goesOn_of_afterWidth
    (hs : (if c = '.' then .ok { s with stage := .point, precision := some 0 }
      else if c ∈ ['h', 'l', 'L'] then .ok { s with stage := .letter }
      else s.finish n c place) = Except.ok s') : GoesOnOrFinishes n s c place s' := by
  by_cases hc : c = '.'
  · subst hc
    cases hs
    exact .inl ⟨by decide, nofun, rfl⟩
  · exact goesOn_of_rest ((if_neg hc).symm.trans hs)

theorem goesOn_of_flags {p : Prop} [Decidable p] {r : Except Refusal State}
    (hr : r = .ok s' → GoesOnOrFinishes n s c place s')
    (hs : (if p then .error .mismatch
      else if c ∈ ['-', '+', ' ', '#', '0'] then .ok { s with stage := .flags }
      else if c = '*' then if c = '*' then s.takeSize n .widthGiven else s.finish n c place
      else r) = Except.ok s') : GoesOnOrFinishes n s c place s' := by
  by_cases hp : p
  · rw [if_pos hp] at hs
    cases hs
  · rw [if_neg hp] at hs
    by_cases hc : c ∈ ['-', '+', ' ', '#', '0']
    · rw [if_pos hc] at hs
      cases hs
      refine .inl ⟨?_, nofun, rfl⟩
      fin_cases hc <;> decide
    · rw [if_neg hc] at hs
      exact goesOn_of_star hr hs nofun

/-- A character within a directive continues or ends it. -/
theorem goesOn_of_read (hs : s.read n c place = .ok s') (hstage : s.stage ≠ .outside) :
    GoesOnOrFinishes n s c place s' := by
  obtain ⟨stage, taken, empty, width, precision⟩ := s
  unfold State.read at hs
  cases hd : asciiDigit? c with
  | none =>
    rw [hd] at hs
    cases stage with
    | outside => exact absurd rfl hstage
    | opened | flags => exact goesOn_of_flags goesOn_of_afterWidth hs
    | width | widthGiven => exact goesOn_of_afterWidth hs
    | point => exact goesOn_of_star goesOn_of_rest hs nofun
    | precision | precisionGiven => exact goesOn_of_rest hs
    | letter => exact .inr hs
  | some d =>
    rw [hd] at hs
    have hc := mem_directiveChars_of_digit hd
    have hgoes {x : State} (hx : Except.ok x = (Except.ok s' : Except Refusal State))
        (hstage : x.stage ≠ .outside) (hempty : x.empty = empty) :
        GoesOnOrFinishes n ⟨stage, taken, empty, width, precision⟩ c place s' :=
      .inl (Except.ok.inj hx ▸ ⟨hc, hstage, hempty⟩)
    cases stage with
    | outside => exact absurd rfl hstage
    | opened | flags =>
      refine goesOn_of_flags (fun hx => ?_) hs
      exact hgoes hx nofun rfl
    | width | point | precision => exact hgoes hs nofun rfl
    | widthGiven => exact goesOn_of_afterWidth hs
    | precisionGiven => exact goesOn_of_rest hs
    | letter => exact .inr hs

theorem read_outside (hs : s.read n c place = .ok s') (he : s'.empty = true)
    (hstage : s.stage = .outside) : s.empty = true ∧ c = '%' ∧ s'.stage = .opened := by
  obtain ⟨stage, taken, empty, width, precision⟩ := s
  obtain rfl : stage = .outside := hstage
  change (if c = '%' then Except.ok _ else Except.ok _) = Except.ok s' at hs
  split_ifs at hs with hc
  · cases hs
    exact ⟨he, hc, rfl⟩
  · cases hs
    cases he

/-- What one more character is that is filled with nothing. -/
structure ReadsNothing (s : State) (c : Char) (s' : State) : Prop where
  empty : s.empty = true
  mem : c ∈ directiveChars
  opens : s.stage = .outside → c = '%'
  closes : s'.stage = .outside → c ∈ textLetters

theorem readsNothing_of_read (hs : s.read n c place = .ok s') (he : s'.empty = true) :
    ReadsNothing s c s' := by
  by_cases hstage : s.stage = .outside
  · obtain ⟨hempty, rfl, hopened⟩ := read_outside hs he hstage
    exact ⟨hempty, by decide, fun _ => rfl, fun h => by rw [hopened] at h; cases h⟩
  · rcases goesOn_of_read hs hstage with hgoes | hfinish
    · exact ⟨hgoes.empty ▸ he, hgoes.mem, fun h => absurd h hstage, fun h => absurd h hgoes.stage⟩
    · obtain ⟨hempty, hc⟩ := finish_of_empty hfinish he
      exact ⟨hempty, List.mem_append_right _ hc, fun h => absurd h hstage, fun _ => hc⟩

/-- The one letter in upper case that a directive goes on after means the same in lower case. -/
theorem read_lower_letter (hs : s.read n 'L' place = .ok s') : s.read n 'l' place = .ok s' := by
  obtain ⟨stage, taken, empty, width, precision⟩ := s
  cases stage with
  | letter =>
    -- Within a directive there is one such letter, and it does not end the directive.
    change State.finish _ n 'L' place = .ok s' at hs
    unfold State.finish at hs
    cases taken <;> cases hs
  | _ => exact hs

/-! ## Reading templates -/

/-- Reads more characters, the first of which stands at `place`. -/
def State.readAll (n : Number) : State → Nat → List Char → Except Refusal State
  | s, _, [] => .ok s
  | s, place, c :: cs => s.read n c place >>= fun s => s.readAll n (place + 1) cs

theorem foldlM_read {cs : List Char} :
    (cs.zipIdx place).foldlM (fun s (c, place) => s.read n c place) s = s.readAll n place cs := by
  induction cs generalizing s place with
  | nil => rfl
  | cons c cs ih =>
    rw [List.zipIdx_cons, List.foldlM_cons, State.readAll]
    exact bind_congr fun s => ih

/-- The template is filled with nothing. -/
def FillsEmpty (n : Number) (cs : List Char) : Prop := fill (String.ofList cs) n = .ok true

variable {cs : List Char}

theorem readAll_cons : s.readAll n place (c :: cs) = .ok s' ↔
    ∃ x, s.read n c place = .ok x ∧ x.readAll n (place + 1) cs = .ok s' := bind_eq_ok

theorem fillsEmpty_iff : FillsEmpty n cs ↔
    ∃ s, ({} : State).readAll n 0 cs = .ok s ∧ s.stage = .outside ∧ s.taken = true ∧
      s.empty = true := by
  rw [FillsEmpty, fill, String.toList_ofList, foldlM_read, bind_eq_ok]
  refine exists_congr fun s => and_congr_right fun _ => ?_
  by_cases hstage : s.stage = .outside
  · rw [if_neg (not_not.2 hstage)]
    cases s.taken with
    | false => exact iff_of_false nofun (by simp)
    | true => simp [hstage, pure, Except.pure]
  · rw [if_pos hstage]
    exact iff_of_false nofun fun h => hstage h.1

/-- Characters that are filled with nothing are those of directives, from a percent sign to the
    letter of a text. -/
theorem readAll_of_empty (hs : s.readAll n place cs = .ok s') (he : s'.empty = true) :
    s.empty = true ∧ (∀ c ∈ cs, c ∈ directiveChars) ∧
      (s.stage = .outside → ∀ c ∈ cs.head?, c = '%') ∧
      (s'.stage = .outside → ∀ c ∈ cs.getLast?, c ∈ textLetters) := by
  induction cs generalizing s place with
  | nil =>
    cases hs
    exact ⟨he, nofun, nofun, nofun⟩
  | cons c cs ih =>
    obtain ⟨x, hx, hs⟩ := readAll_cons.1 hs
    obtain ⟨hempty, hall, -, hlast⟩ := ih hs
    have hread := readsNothing_of_read hx hempty
    refine ⟨hread.empty, List.forall_mem_cons.2 ⟨hread.mem, hall⟩, ?_, fun hstage => ?_⟩
    · rintro hstage _ ⟨⟩
      exact hread.opens hstage
    · cases cs with
      | nil =>
        cases hs
        rintro _ ⟨⟩
        exact hread.closes hstage
      | cons d cs =>
        rw [List.getLast?_cons_cons]
        exact hlast hstage

theorem directiveChars_disjoint :
    bitsOfAll [(directiveChars.erase 'L').map Char.toNat] &&& bitsOfAll lowerMoved = 0 := by
  decide +kernel

theorem isLower_of_mem_directiveChars (hc : c ∈ directiveChars) (hne : c ≠ 'L') : IsLower c :=
  isLower_of_not_moved <| not_mem_of_bitsOfAll directiveChars_disjoint List.mem_cons_self <|
    List.mem_map_of_mem ((List.mem_erase_of_ne hne).2 hc)

theorem readAll_lowerFrom {before : Bool} (hs : s.readAll n place cs = .ok s')
    (he : s'.empty = true) : s.readAll n place (lowerFrom before cs) = .ok s' := by
  induction cs generalizing s place before with
  | nil => exact hs
  | cons c cs ih =>
    obtain ⟨x, hx, hrest⟩ := readAll_cons.1 hs
    have hmem := (readsNothing_of_read hx (readAll_of_empty hrest he).1).mem
    rw [lowerFrom_cons, lowerAt]
    by_cases hc : c = 'L'
    · subst hc
      exact readAll_cons.2 ⟨x, read_lower_letter hx, ih hrest⟩
    · obtain ⟨hsigma, hlower⟩ := isLower_of_mem_directiveChars hmem hc
      rw [if_neg hsigma, hlower]
      exact readAll_cons.2 ⟨x, hx, ih hrest⟩

/-- A template that is filled with nothing ends with the letter of a text. -/
theorem FillsEmpty.exists_getLast (h : FillsEmpty n cs) :
    ∃ c ∈ textLetters, cs.getLast? = some c := by
  obtain ⟨s, hs, hstage, htaken, hempty⟩ := fillsEmpty_iff.1 h
  cases hlast : cs.getLast? with
  | none =>
    -- The number has to be taken by something.
    rw [List.getLast?_eq_none_iff] at hlast
    subst hlast
    cases hs
    cases htaken
  | some c => exact ⟨c, (readAll_of_empty hs hempty).2.2.2 hstage c hlast, rfl⟩

/-- It has no white space at its ends. -/
theorem FillsEmpty.trim_eq (h : FillsEmpty n cs) : trim whiteSpace cs = cs := by
  obtain ⟨s, hs, -, -, hempty⟩ := fillsEmpty_iff.1 h
  obtain ⟨-, -, hhead, -⟩ := readAll_of_empty hs hempty
  obtain ⟨c, hc, hlast⟩ := h.exists_getLast
  have hletters : ∀ c ∈ textLetters, whiteSpace.contains c = false := by
    intro c hc
    fin_cases hc <;> rfl
  refine trim_eq_self (fun d hd => ?_) fun d hd => ?_
  · rw [hhead rfl d hd]
    rfl
  · rw [hlast] at hd
    exact Option.some.inj hd ▸ hletters c hc

/-- In lower case it is filled with nothing as well. -/
theorem FillsEmpty.lowerCase (h : FillsEmpty n cs) : FillsEmpty n (lowerCase cs) := by
  obtain ⟨s, hs, hstage, htaken, hempty⟩ := fillsEmpty_iff.1 h
  exact fillsEmpty_iff.2 ⟨s, readAll_lowerFrom hs hempty, hstage, htaken, hempty⟩

/-! ## Templates in either case -/

/-- The characters of directives that are filled with nothing, in either case. -/
def plainChars : List Char := directiveChars ++ ['H', 'S', 'R', 'A']

/-- The text has only such characters, and no white space at its ends. -/
structure IsPlain (s : List Char) : Prop where
  mem : ∀ c ∈ s, c ∈ plainChars
  trimmed : trim whiteSpace s = s

theorem FillsEmpty.isPlain (h : FillsEmpty n cs) : IsPlain cs where
  mem := by
    obtain ⟨s, hs, -, -, hempty⟩ := fillsEmpty_iff.1 h
    exact fun c hc => List.mem_append_left _ ((readAll_of_empty hs hempty).2.1 c hc)
  trimmed := h.trim_eq

/-- Each of the characters has the one form in either case that it has among the ASCII ones. -/
theorem forms_of_mem_plainChars (hc : c ∈ plainChars) :
    upperChar c = [c.toUpper] ∧ lowerChar c = [c.toLower] := by
  fin_cases hc <;> exact ⟨rfl, rfl⟩

theorem closed_plainChars (hc : c ∈ plainChars) : c.toUpper ∈ plainChars ∧ c.toLower ∈ plainChars ∧
    c.toUpper.toLower = c.toLower ∧ c.toLower.toUpper = c.toUpper := by
  fin_cases hc <;> decide +kernel

theorem special_not_mem_plainChars : 'Σ' ∉ plainChars ∧ '\u0307' ∉ plainChars := by
  decide +kernel

/-- A template that is filled with nothing is not in upper case: the letters of texts are not. -/
theorem FillsEmpty.not_upper (h : FillsEmpty n cs) : ¬∀ c ∈ cs, IsUpper c := by
  obtain ⟨c, hc, hlast⟩ := h.exists_getLast
  have hletters : ∀ c ∈ textLetters, c.toUpper ≠ c := by
    intro c hc
    fin_cases hc <;> decide +kernel
  intro hupper
  have hmem := List.mem_of_getLast? hlast
  have hform := (forms_of_mem_plainChars (h.isPlain.mem c hmem)).1
  exact hletters c hc (List.singleton_inj.1 (hform.symm.trans (hupper c hmem)))

namespace IsPlain

variable {s : List Char}

theorem upperCase_eq (hs : ∀ c ∈ s, c ∈ plainChars) : upperCase s = s.map Char.toUpper := by
  rw [upperCase, List.flatMap_congr fun c hc => (forms_of_mem_plainChars (hs c hc)).1]
  exact List.flatMap_pure_eq_map _ s

theorem lowerFrom_eq {before : Bool} (hs : ∀ c ∈ s, c ∈ plainChars) :
    lowerFrom before s = s.map Char.toLower := by
  induction s generalizing before with
  | nil => rfl
  | cons c s ih =>
    have hc := hs c List.mem_cons_self
    have hsigma : c ≠ 'Σ' := fun h => special_not_mem_plainChars.1 (h ▸ hc)
    rw [lowerFrom_cons, lowerAt, if_neg hsigma, (forms_of_mem_plainChars hc).2,
      ih fun d hd => hs d (List.mem_cons_of_mem c hd)]
    rfl

theorem mem_map_toUpper (hs : ∀ c ∈ s, c ∈ plainChars) :
    ∀ c ∈ s.map Char.toUpper, c ∈ plainChars :=
  List.forall_mem_map.2 fun c hc => (closed_plainChars (hs c hc)).1

theorem mem_map_toLower (hs : ∀ c ∈ s, c ∈ plainChars) :
    ∀ c ∈ s.map Char.toLower, c ∈ plainChars :=
  List.forall_mem_map.2 fun c hc => (closed_plainChars (hs c hc)).2.1

/-- Only the case counts that the text is put into last. -/
theorem lowerCase_upperCase (hs : IsPlain s) : lowerCase (upperCase s) = lowerCase s := by
  rw [lowerCase, lowerCase, upperCase_eq hs.mem, lowerFrom_eq (mem_map_toUpper hs.mem),
    lowerFrom_eq hs.mem, List.map_map]
  exact List.map_congr_left fun c hc => (closed_plainChars (hs.mem c hc)).2.2.1

theorem upperCase_lowerCase (hs : IsPlain s) : upperCase (lowerCase s) = upperCase s := by
  rw [lowerCase, lowerFrom_eq hs.mem, upperCase_eq (mem_map_toLower hs.mem),
    upperCase_eq hs.mem, List.map_map]
  exact List.map_congr_left fun c hc => (closed_plainChars (hs.mem c hc)).2.2.2

protected theorem upperCase (hs : IsPlain s) : IsPlain (upperCase s) where
  mem := upperCase_eq hs.mem ▸ mem_map_toUpper hs.mem
  trimmed := trim_upperCase hs.trimmed

protected theorem lowerCase (hs : IsPlain s) : IsPlain (lowerCase s) where
  mem := by
    rw [lowerCase, lowerFrom_eq hs.mem]
    exact mem_map_toLower hs.mem
  trimmed := trim_lowerCase hs.trimmed

theorem length_upperCase (hs : IsPlain s) : (upperCase s).length = s.length := by
  rw [upperCase_eq hs.mem, List.length_map]

theorem length_lowerCase (hs : IsPlain s) : (lowerCase s).length = s.length := by
  rw [lowerCase, lowerFrom_eq hs.mem, List.length_map]

end IsPlain

end TypedHeaders.Template
