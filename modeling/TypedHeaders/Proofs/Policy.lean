import TypedHeaders.Proofs.Binding
import TypedHeaders.Proofs.Populate

/-!
# The lenient policy

The lenient policy binds a nilable header that is absent to nothing, where the
strict one finds it missing. What the strict policy binds, the lenient one binds
to the same value — with one exception. A nilable record of which a nilable field
is absent is nothing as a whole under the strict policy; under the lenient one
only the field is, so that the other fields count (`Parameter.SettledBy` excludes
that).

* `Parameter.bind_of_strict`: the two policies agree on one parameter;
* `populate_of_strict`: and on a whole feed.
-/

namespace TypedHeaders

namespace Parameter

variable {p : Parameter} {tag : Tag} {h : Headers} {v : Value}

/-- The policy does not decide whether the record is there: if it is nilable, then none of its
    nilable fields is absent. -/
def SettledBy (p : Parameter) (h : Headers) : Prop :=
  p.nilable = true → ∀ r tag, p.reading = .record r tag →
    ∀ f ∈ r.fields, f.nilable = true → h.values f.headerKey ≠ .ok []

/-- What is bound from its own header under the strict policy is bound so under the lenient one. -/
theorem bindTexts_of_strict (hb : p.bindTexts tag h false = .ok v) :
    p.bindTexts tag h true = .ok v := by
  rw [bindTexts_eq] at hb ⊢
  cases hf : h.find p.header p.nilable false with
  | error e => rw [hf] at hb; cases hb
  | ok found =>
    have hne : found ≠ .missing := by
      rintro rfl
      rw [hf] at hb
      cases hb
    rw [hf] at hb
    rw [Headers.find_of_strict hf hne]
    exact hb

/-- A record that is settled is assembled the same under the lenient policy. -/
theorem assemble_of_strict {r : RecordDescriptor} {tag : Option Tag}
    {found : Option (Entries Value)} (hs : p.SettledBy h) (hr : p.reading = .record r tag)
    (ha : r.assemble h p.nilable false = .ok found) :
    r.assemble h p.nilable true = .ok found := by
  cases hn : p.nilable with
  | true =>
    rw [hn] at ha
    rw [← ha]
    exact assembleFields_congr_policy (hs hn r tag hr)
  | false =>
    -- Nothing may be missing here, so every field was found.
    rw [hn] at ha
    cases found with
    | none => exact absurd ha assembleFields_required_ne_none
    | some entries => exact assembleFields_of_strict ha

/-- What is bound under the strict policy is bound to the same value under the lenient one. -/
theorem bind_of_strict (hs : p.SettledBy h) (hb : p.bind h false = .ok v) :
    p.bind h true = .ok v := by
  cases hr : p.reading with
  | scalar tag _ =>
    simp only [bind, hr] at hb ⊢
    exact bindTexts_of_strict hb
  | array tag _ =>
    simp only [bind, hr] at hb ⊢
    exact bindTexts_of_strict hb
  | record r tag =>
    rw [bind_of_record hr] at hb ⊢
    cases ha : r.assemble h p.nilable false with
    | error e => rw [ha] at hb; cases hb
    | ok found =>
      rw [ha] at hb
      rw [assemble_of_strict hs hr ha]
      exact hb

end Parameter

/-- Parameters that bind to the same values under two policies fill a feed in the same way. -/
theorem Feed.populate_congr_policy {h : Headers} {lenient lenient' : Bool} {ps : List Parameter}
    {old new : Feed}
    (hps : ∀ p ∈ ps, ∀ v, p.bind h lenient = .ok v → p.bind h lenient' = .ok v)
    (hnew : old.populate h lenient ps = (new, none)) :
    old.populate h lenient' ps = (new, none) := by
  induction ps generalizing old with
  | nil => exact hnew
  | cons p ps ih =>
    rw [populate] at hnew ⊢
    cases hp : p.bind h lenient with
    | error e => rw [hp] at hnew; cases hnew
    | ok v =>
      rw [hps p List.mem_cons_self v hp]
      rw [hp] at hnew
      dsimp only at hnew ⊢
      split at hnew
      · exact ih (fun q hq => hps q (List.mem_cons_of_mem p hq)) hnew
      · cases hnew

namespace BindingSet

/-- A set that is bound under the strict policy is bound under the lenient one, and the feed is the
    same; except that the policy may decide about nilable records. -/
theorem populate_of_strict (s : BindingSet) (h : Headers) (old new : Feed)
    (hs : ∀ p ∈ s.params, p.SettledBy h) (hnew : s.populate h false old = (new, none)) :
    s.populate h true old = (new, none) :=
  Feed.populate_congr_policy (fun p hp _ hb => Parameter.bind_of_strict (hs p hp) hb) hnew

set_option maxRecDepth 20000 in
/-- A nilable text is empty, and the nilable field of a nilable record is there. -/
theorem populate_of_strict_nilable_record :
    let note : Parameter :=
      ⟨"note", "note", 2, .scalar .string, .optional (.plain .str), true, []⟩
    let span : TypeExpr :=
      .record ⟨.model, "Span", true, ""⟩ [{ name := "x", type := .optional (.plain .int) }]
    let record : Parameter :=
      ⟨"span", "span", 0, .record ⟨[⟨"x", "x", .int, false, true⟩]⟩, .optional span, true, []⟩
    let h : Headers := ⟨[("x", "5"), ("note", "")]⟩
    let new : Feed :=
      [.record ⟨.model, "Span", true, ""⟩ [("x", .int 5)], .bool true, .absent, .bool true]
    (∀ p ∈ [record, note], p.SettledBy h) ∧
      populate { params := [record, note] } h false (Feed.empty 4) = (new, none) ∧
      populate { params := [record, note] } h true (Feed.empty 4) = (new, none) := by
  intro note span record h new
  have hx : h.values "x" = .ok ["5"] := by
    subst h
    rfl
  have hs : ∀ p ∈ [record, note], p.SettledBy h := by
    intro p hp _ r tag hr f hf _
    rcases List.mem_pair.1 hp with rfl | rfl
    · cases hr
      rw [List.mem_singleton.1 hf, hx]
      simp
    · cases hr
  have hempty : h.values "note" = .ok [""] := by
    subst h
    rfl
  have hrecord : record.bind h false = .ok (.record ⟨.model, "Span", true, ""⟩ [("x", .int 5)]) := by
    rw [Parameter.bind_of_record rfl]
    simp only [RecordDescriptor.assemble, assembleFields_cons, FieldDescriptor.read_eq,
      Headers.find, hx]
    rfl
  have hnote : note.bind h false = .ok .absent := by
    change note.bindTexts .string h false = _
    rw [Parameter.bindTexts_eq, Headers.find, hempty]
    rfl
  have hnew : populate { params := [record, note] } h false (Feed.empty 4) = (new, none) := by
    rw [populate, Feed.populate_cons_of_ok hrecord (by decide),
      Feed.populate_cons_of_ok hnote (by decide)]
    rfl
  exact ⟨hs, hnew, populate_of_strict { params := [record, note] } h _ new hs hnew⟩

end BindingSet

end TypedHeaders
