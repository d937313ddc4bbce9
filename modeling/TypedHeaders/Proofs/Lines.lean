import TypedHeaders.Proofs.Views

/-!
# Headers from lines

A line is split at its first colon, and both of its parts are trimmed (`entryOf`);
a line without a colon is malformed. All lines are split before any text is checked,
so that the first malformed line is reported whatever stands before it, and
otherwise the lines are taken as the entries that they hold (`ofLines_eq`).

* `ofLines_undoes_writing`: an entry is read from every line on which it is written,
  with any blanks around its name and its value (`HeaderLine`), so that headers are
  the same whether they are made of entries or of lines.
-/

namespace TypedHeaders

namespace Headers

/-! ## Reading a line -/

/-- The entry on a line with a colon. -/
def entryOf (line : String) : HeaderEntry :=
  let trimmed (s : List Char) := String.ofList (Text.trim Text.blank s)
  (trimmed (line.toList.takeWhile (· ≠ ':')),
    .one (.text (trimmed (line.toList.dropWhile (· ≠ ':')).tail)))

theorem splitLine_eq (line : String) :
    splitLine line =
      if ':' ∈ line.toList then .ok (entryOf line).item else .error (.malformed line) := by
  rw [splitLine, List.span_eq_takeWhile_dropWhile]
  cases hrest : line.toList.dropWhile (· ≠ ':') with
  | nil =>
    have hcolon : ':' ∉ line.toList := fun h => by
      simpa using List.dropWhile_eq_nil_iff.1 hrest ':' h
    rw [if_neg hcolon]
  | cons c value =>
    have hcolon : ':' ∈ line.toList := by
      by_contra h
      have hne : ∀ c ∈ line.toList, decide (c ≠ ':') = true := fun c hc =>
        decide_eq_true fun heq => h (heq ▸ hc)
      rw [List.dropWhile_eq_nil_iff.2 hne] at hrest
      cases hrest
    rw [if_pos hcolon, entryOf, hrest]
    rfl

/-- The first line without a colon is reported. If there is none, the lines give the headers that
    their entries give. -/
theorem ofLines_eq (lines : List String) :
    ofLines lines =
      match lines.find? fun line => ':' ∉ line.toList with
      | some line => .error (.malformed line)
      | none => ofItems (lines.map fun line => (entryOf line).item) := by
  have hsplit : lines.mapM splitLine =
      match lines.find? fun line => ':' ∉ line.toList with
      | some line => .error (.malformed line)
      | none => .ok (lines.map fun line => (entryOf line).item) := by
    induction lines with
    | nil => rfl
    | cons line lines ih =>
      rw [List.mapM_cons, splitLine_eq, List.find?_cons, ih]
      by_cases hcolon : ':' ∈ line.toList
      · rw [if_pos hcolon, decide_eq_false (not_not_intro hcolon)]
        cases lines.find? fun line => ':' ∉ line.toList <;> rfl
      · rw [if_neg hcolon, decide_eq_true hcolon]
        rfl
  rw [ofLines, hsplit]
  cases lines.find? fun line => ':' ∉ line.toList <;> rfl

/-- Entries are never malformed. -/
theorem ofItems_entries_ne_malformed (entries : List HeaderEntry) (line : String) :
    ofItems (entries.map HeaderEntry.item) ≠ .error (.malformed line) := by
  rw [ofItems_entries]
  rcases unsendable? (sentTexts entries) with _ | ⟨name, _ | text⟩ <;>
    simp [HeadersError.ofUnsendable]

theorem ofLines_eq_malformed_iff {lines : List String} {line : String} :
    ofLines lines = .error (.malformed line) ↔
      ∃ before after, lines = before ++ line :: after ∧ ':' ∉ line.toList ∧
        ∀ earlier ∈ before, ':' ∈ earlier.toList := by
  have hfind : ofLines lines = .error (.malformed line) ↔
      lines.find? (fun line => ':' ∉ line.toList) = some line := by
    rw [ofLines_eq]
    cases lines.find? fun line => ':' ∉ line.toList with
    | some first => simp
    | none =>
      have hentries := ofItems_entries_ne_malformed (lines.map entryOf) line
      rw [List.map_map] at hentries
      exact iff_of_false hentries (by simp)
  rw [hfind, List.find?_eq_some_iff_append]
  constructor
  · rintro ⟨hline, before, after, hlines, hbefore⟩
    exact ⟨before, after, hlines, of_decide_eq_true hline, fun l hl => by simpa using hbefore l hl⟩
  · rintro ⟨before, after, hlines, hline, hbefore⟩
    exact ⟨decide_eq_true hline, before, after, hlines, fun l hl => by simpa using hbefore l hl⟩

end Headers

/-! ## Writing a line -/

/-- A header as it may stand on a line, with a text before and after its name and its value. -/
structure HeaderLine where
  name : String
  value : String
  beforeName : String := ""
  afterName : String := ""
  beforeValue : String := ""
  afterValue : String := ""

namespace HeaderLine

/-- The line. -/
def text (l : HeaderLine) : String :=
  l.beforeName ++ l.name ++ l.afterName ++ ":" ++ (l.beforeValue ++ l.value ++ l.afterValue)

/-- The entry that is written on it. -/
def entry (l : HeaderLine) : HeaderEntry := (l.name, .one (.text l.value))

/-- The entry can be told from what stands around it: the name has no colon, the name and the value
    have no blanks at their ends, and there is nothing but blanks around them. -/
@[mk_iff]
structure IsLegible (l : HeaderLine) : Prop where
  noColon : ':' ∉ l.name.toList
  trimmedName : Text.IsTrimmed Text.blank l.name.toList
  trimmedValue : Text.IsTrimmed Text.blank l.value.toList
  blank : ∀ s ∈ [l.beforeName, l.afterName, l.beforeValue, l.afterValue],
    s.toList.all Text.blank.contains = true

instance : DecidablePred IsLegible := fun l => decidable_of_iff _ (isLegible_iff l).symm

variable {l : HeaderLine}

theorem toList_text (l : HeaderLine) :
    l.text.toList = (l.beforeName.toList ++ l.name.toList ++ l.afterName.toList) ++
      ':' :: (l.beforeValue.toList ++ l.value.toList ++ l.afterValue.toList) := by
  simp [text]

/-- The colon after the name is the first one on the line: no blank is a colon. -/
theorem IsLegible.ne_colon (h : l.IsLegible) :
    ∀ c ∈ l.beforeName.toList ++ l.name.toList ++ l.afterName.toList, decide (c ≠ ':') = true := by
  have hblank (s : String) (hs : s ∈ [l.beforeName, l.afterName, l.beforeValue, l.afterValue]) :
      ':' ∉ s.toList := fun hc => absurd (List.all_eq_true.1 (h.blank s hs) ':' hc) (by decide)
  intro c hc
  refine decide_eq_true ?_
  rintro rfl
  rw [List.mem_append, List.mem_append] at hc
  rcases hc with (hc | hc) | hc
  · exact hblank l.beforeName (by simp) hc
  · exact h.noColon hc
  · exact hblank l.afterName (by simp) hc

/-- The entry on a line is the one that was written. -/
theorem IsLegible.entryOf_text (h : l.IsLegible) : Headers.entryOf l.text = l.entry := by
  have hblank (s : String) (hs : s ∈ [l.beforeName, l.afterName, l.beforeValue, l.afterValue]) :
      ∀ c ∈ s.toList, Text.blank.contains c = true := List.all_eq_true.1 (h.blank s hs)
  have hname : l.text.toList.takeWhile (· ≠ ':') =
      l.beforeName.toList ++ l.name.toList ++ l.afterName.toList := by
    rw [toList_text, List.takeWhile_append_of_pos h.ne_colon]
    simp
  have hvalue : (l.text.toList.dropWhile (· ≠ ':')).tail =
      l.beforeValue.toList ++ l.value.toList ++ l.afterValue.toList := by
    rw [toList_text, List.dropWhile_append_of_pos h.ne_colon]
    simp
  rw [Headers.entryOf, hname, hvalue]
  dsimp only
  rw [Text.trim_append (hblank _ (by simp)) (hblank _ (by simp)),
    Text.trim_append (hblank _ (by simp)) (hblank _ (by simp)),
    Text.trim_eq_self_iff.2 h.trimmedName, Text.trim_eq_self_iff.2 h.trimmedValue,
    String.ofList_toList, String.ofList_toList, entry]

theorem colon_mem_text (l : HeaderLine) : ':' ∈ l.text.toList := by
  simp [toList_text]

end HeaderLine

namespace Headers

variable {lines : List HeaderLine}

/-- Lines give the headers that the entries on them give. -/
theorem ofLines_text (h : ∀ l ∈ lines, l.IsLegible) :
    ofLines (lines.map HeaderLine.text) =
      ofItems ((lines.map HeaderLine.entry).map HeaderEntry.item) := by
  have hfind : (lines.map HeaderLine.text).find? (fun line => ':' ∉ line.toList) = none := by
    simp [HeaderLine.colon_mem_text]
  have hentries : (lines.map HeaderLine.text).map (fun line => (entryOf line).item) =
      (lines.map HeaderLine.entry).map HeaderEntry.item := by
    rw [List.map_map, List.map_map]
    exact List.map_congr_left fun l hl => congrArg HeaderEntry.item (h l hl).entryOf_text
  rw [ofLines_eq, hfind]
  exact congrArg ofItems hentries

/-- Reading lines undoes writing them: whatever blanks stand around the names and the values, the
    lines give the headers that a source of the same entries gives, or the same error. A line
    without a colon is malformed, and the first one is reported whatever the lines before it hold;
    no line is malformed otherwise. -/
theorem ofLines_undoes_writing :
    (∀ (lines : List HeaderLine) (source : HeaderSource), (∀ l ∈ lines, l.IsLegible) →
      source.Gives (lines.map HeaderLine.entry) →
        ofLines (lines.map HeaderLine.text) = ofSource source) ∧
    ∀ (lines : List String) (line : String), ofLines lines = .error (.malformed line) ↔
      ∃ before after, lines = before ++ line :: after ∧ ':' ∉ line.toList ∧
        ∀ earlier ∈ before, ':' ∈ earlier.toList :=
  ⟨fun _ _ h hs => (ofLines_text h).trans (ofSource_of_gives hs).symm,
    fun _ _ => ofLines_eq_malformed_iff⟩

/-- Blanks of any kind may stand around a name and a value, and a value may hold colons; the first
    malformed line is reported before the name that is not Latin-1. -/
theorem ofLines_undoes_writing_blanks :
    let lines : List HeaderLine :=
      [⟨"X-Id", "a:b", "\u001c", "\u0085", "\t", "\u00a0 "⟩, ⟨"x-id", "c", "", "", "", ""⟩]
    (∀ l ∈ lines, l.IsLegible) ∧
    lines.map HeaderLine.text = ["\u001cX-Id\u0085:\ta:b\u00a0 ", "x-id:c"] ∧
    (∃ h, ofLines (lines.map HeaderLine.text) = .ok h ∧ h.values "X-ID" = .ok ["a:b", "c"]) ∧
    ofLines ["Ω: 1", "oops", "none"] = .error (.malformed "oops") := by
  intro lines
  have hlegible : ∀ l ∈ lines, l.IsLegible := by decide +kernel
  refine ⟨hlegible, by decide +kernel, ?_,
    (ofLines_undoes_writing.2 _ _).2 ⟨["Ω: 1"], ["none"], rfl, by decide, by decide⟩⟩
  rw [ofLines_undoes_writing.1 lines _ hlegible (.items _)]
  exact ⟨⟨[("x-id", "a:b"), ("x-id", "c")]⟩, by decide +kernel, by decide +kernel⟩

end Headers

end TypedHeaders
