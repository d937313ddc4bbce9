import TypedHeaders.Binding
import TypedHeaders.Proofs.Results

/-!
# Binding case by case

What the functions of binding come to, in each of their cases: looking up a
header (`Headers.find`), reading a field of a record (`FieldDescriptor.read`),
assembling the fields one by one (`assembleFields`), and binding a parameter
(`Parameter.bind`).

Only under a header without any value does the policy make a difference
(`find_congr_policy`).
-/

namespace TypedHeaders

/-! ## Looking up a header -/

section Lookup

variable {h : Headers} {key : String} {nilable lenient lenient' : Bool} {values : List String}

/-- Only where there is no value does the policy count. -/
theorem Finding.ofValues_congr_policy (hv : values ≠ []) :
    ofValues nilable lenient values = ofValues nilable lenient' values := by
  match values, hv with
  | [_], _ => rfl
  | _ :: _ :: _, _ => rfl

/-- What must be there is missing under either policy. -/
theorem Finding.ofValues_of_required (lenient lenient' : Bool) :
    ofValues false lenient values = ofValues false lenient' values := by
  match values with
  | [] => rfl
  | _ :: _ => exact ofValues_congr_policy (List.cons_ne_nil _ _)

theorem Finding.ofValues_nil_strict : ofValues nilable false [] = .missing := by
  rw [ofValues, Bool.and_false]
  rfl

/-- Nothing is found for what is nilable: under an empty header, and under an absent one if the
    policy is lenient. -/
theorem Finding.ofValues_eq_nothing :
    ofValues nilable lenient values = .nothing ↔
      nilable = true ∧ (values = [] ∧ lenient = true ∨ values = [""]) := by
  match values with
  | [] => simp [ofValues]
  | [v] => by_cases hv : v = "" <;> simp [ofValues, hv]
  | _ :: _ :: _ => simp [ofValues]

/-- What is absent or empty, and not found to be nothing, is missing. -/
theorem Finding.ofValues_eq_missing :
    ofValues nilable lenient values = .missing ↔
      values = [] ∧ ¬(nilable = true ∧ lenient = true) ∨ values = [""] ∧ ¬nilable = true := by
  match values with
  | [] => simp [ofValues]
  | [v] => by_cases hv : v = "" <;> simp [ofValues, hv]
  | _ :: _ :: _ => simp [ofValues]

/-- The values of a header that is neither absent nor empty are found whatever the policy, and
    whether or not the header is nilable. -/
theorem Finding.ofValues_of_filled {first : String} {rest : List String}
    (hfilled : first :: rest ≠ [""]) :
    ofValues nilable lenient (first :: rest) = .values first rest := by
  cases rest with
  | nil =>
    have hfirst : first ≠ "" := fun he => hfilled (by rw [he])
    rw [ofValues, if_neg hfirst]
  | cons v vs => rfl

theorem Headers.find_of_values (hv : h.values key = .ok values) :
    h.find key nilable lenient = .ok (.ofValues nilable lenient values) := by
  rw [find, hv]

/-- The policy counts only for what is nilable and has no value. -/
theorem Headers.find_congr_policy (hn : nilable = true → h.values key ≠ .ok []) :
    h.find key nilable lenient = h.find key nilable lenient' := by
  rw [find, find]
  cases hv : h.values key with
  | error u => rfl
  | ok values =>
    cases nilable with
    | false => exact congrArg Except.ok (Finding.ofValues_of_required lenient lenient')
    | true =>
      have : values ≠ [] := fun e => hn rfl (by rw [hv, e])
      exact congrArg Except.ok (Finding.ofValues_congr_policy this)

/-- What is found under the strict policy is found under the lenient one. -/
theorem Headers.find_of_strict {found : Finding} (hf : h.find key nilable false = .ok found)
    (hne : found ≠ .missing) : h.find key nilable lenient = .ok found := by
  rw [← hf]
  refine find_congr_policy fun _ hv => hne ?_
  simp only [find, hv, Finding.ofValues_nil_strict] at hf
  exact (Except.ok.inj hf).symm

/-- Only for what is nilable, nothing is found. -/
theorem Headers.nilable_of_find
    (hf : h.find key nilable lenient = .ok .nothing) : nilable = true := by
  cases nilable with
  | true => rfl
  | false =>
    rw [find] at hf
    split at hf
    · rename_i values _
      match values with
      | [] => cases hf
      | [v] =>
        rw [Finding.ofValues] at hf
        split at hf <;> cases hf
      | _ :: _ :: _ => cases hf
    · cases hf

end Lookup

/-! ## Reading fields -/

section Fields

variable {h : Headers} {nilable lenient lenient' : Bool} {f : FieldDescriptor}
  {fs : List FieldDescriptor} {assembled entries : Entries Value}

theorem FieldDescriptor.read_eq (f : FieldDescriptor) (h : Headers) (lenient : Bool) :
    f.read h lenient =
      match h.find f.headerKey f.nilable lenient with
      | .error e => .error e
      | .ok .nothing => .ok (some .absent)
      | .ok .missing => .ok none
      | .ok (.values first rest) =>
        match castTexts f.tag f.isArray first rest with
        | .ok v => .ok (some v)
        | .error e => .error (.uncast f.headerKey e) := by
  rw [read]
  cases h.find f.headerKey f.nilable lenient with
  | error e => rfl
  | ok found => cases found <;> rfl

/-- A field that is found under the strict policy is read the same under the lenient one. -/
theorem FieldDescriptor.read_of_strict {v : Value} (hr : f.read h false = .ok (some v)) :
    f.read h lenient = .ok (some v) := by
  rw [read_eq] at hr ⊢
  cases hf : h.find f.headerKey f.nilable false with
  | error e => rw [hf] at hr; cases hr
  | ok found =>
    have hne : found ≠ .missing := by
      rintro rfl
      rw [hf] at hr
      cases hr
    rw [hf] at hr
    rw [Headers.find_of_strict hf hne]
    exact hr

/-- No text is cast to nothing. -/
theorem castTexts_ne_absent {tag : Tag} {isArray : Bool} {first : String} {rest : List String} :
    castTexts tag isArray first rest ≠ .ok .absent := by
  intro hcast
  unfold castTexts at hcast
  split at hcast
  · obtain ⟨as, -, ha⟩ := map_eq_ok.1 hcast
    cases ha
  · obtain ⟨a, hatom, ha⟩ := map_eq_ok.1 hcast
    cases ha
    cases tag with
    | string | other name => cases hatom
    | int | float | decimal | boolean =>
      obtain ⟨x, -, hx⟩ := map_eq_ok.1 hatom
      cases hx

/-- Only a nilable field is read as nothing. -/
theorem FieldDescriptor.nilable_of_read (hr : f.read h lenient = .ok (some .absent)) :
    f.nilable = true := by
  rw [read_eq] at hr
  split at hr
  · cases hr
  · rename_i hf
    exact Headers.nilable_of_find hf
  · cases hr
  · split at hr
    · rename_i hcast
      cases hr
      exact absurd hcast castTexts_ne_absent
    · cases hr

theorem FieldDescriptor.read_congr_policy (hn : f.nilable = true → h.values f.headerKey ≠ .ok []) :
    f.read h lenient = f.read h lenient' := by
  rw [read_eq, read_eq, Headers.find_congr_policy hn]

theorem assembleFields_cons :
    assembleFields h nilable lenient assembled (f :: fs) =
      match f.read h lenient with
      | .error e => .error e
      | .ok (some v) => assembleFields h nilable lenient (Entries.put f.name v assembled) fs
      | .ok none => if nilable then .ok none else .error (.missing f.headerKey) := by
  rw [assembleFields]
  cases f.read h lenient with
  | error e => rfl
  | ok found =>
    cases found with
    | some v => rfl
    | none => cases nilable <;> rfl

/-- A record is assembled from one more field if that field is found, and then the others. -/
theorem assembleFields_cons_eq_some :
    assembleFields h nilable lenient assembled (f :: fs) = .ok (some entries) ↔
      ∃ v, f.read h lenient = .ok (some v) ∧
        assembleFields h nilable lenient (Entries.put f.name v assembled) fs =
          .ok (some entries) := by
  rw [assembleFields_cons]
  cases f.read h lenient with
  | error e => simp
  | ok found =>
    cases found with
    | some v => simp
    | none => cases nilable <;> simp

/-- The policy does not count if every nilable field has a value. -/
theorem assembleFields_congr_policy
    (hn : ∀ f ∈ fs, f.nilable = true → h.values f.headerKey ≠ .ok []) :
    assembleFields h nilable lenient assembled fs =
      assembleFields h nilable lenient' assembled fs := by
  induction fs generalizing assembled with
  | nil => rfl
  | cons f fs ih =>
    have hf : f.read h lenient = f.read h lenient' :=
      FieldDescriptor.read_congr_policy (hn f List.mem_cons_self)
    have hfs : ∀ assembled, assembleFields h nilable lenient assembled fs =
        assembleFields h nilable lenient' assembled fs := fun _ =>
      ih fun g hg => hn g (List.mem_cons_of_mem f hg)
    simp only [assembleFields_cons, hf, hfs]

/-- A record that is assembled under the strict policy is the same under the lenient one. -/
theorem assembleFields_of_strict
    (ha : assembleFields h nilable false assembled fs = .ok (some entries)) :
    assembleFields h nilable lenient assembled fs = .ok (some entries) := by
  induction fs generalizing assembled with
  | nil => exact ha
  | cons f fs ih =>
    obtain ⟨v, hv, ha⟩ := assembleFields_cons_eq_some.1 ha
    exact assembleFields_cons_eq_some.2 ⟨v, FieldDescriptor.read_of_strict hv, ih ha⟩

/-- Where a record must be there, nothing but its fields comes of assembling it. -/
theorem assembleFields_required_ne_none :
    assembleFields h false lenient assembled fs ≠ .ok none := by
  induction fs generalizing assembled with
  | nil => simp [assembleFields]
  | cons f fs ih =>
    rw [assembleFields_cons]
    cases f.read h lenient with
    | error e => simp
    | ok found =>
      cases found with
      | some v => exact ih
      | none => simp

end Fields

/-! ## Binding a parameter -/

namespace Parameter

variable {p : Parameter} {tag : Tag} {h : Headers} {lenient : Bool} {v : Value}

theorem bindTexts_eq (p : Parameter) (tag : Tag) (h : Headers) (lenient : Bool) :
    p.bindTexts tag h lenient =
      match h.find p.header p.nilable lenient with
      | .error e => .error e
      | .ok .nothing => .ok .absent
      | .ok .missing => .error (.missing p.header)
      | .ok (.values first rest) =>
        match castTexts tag p.isArray first rest with
        | .ok v => p.finish v
        | .error e => .error (.uncast p.header e) := by
  rw [bindTexts]
  cases h.find p.header p.nilable lenient with
  | error e => rfl
  | ok found => cases found <;> rfl

theorem bind_of_record {r : RecordDescriptor} {tag : Option Tag}
    (hr : p.reading = .record r tag) :
    p.bind h lenient =
      match r.assemble h p.nilable lenient with
      | .error e => .error e
      | .ok (some fields) => p.finish (.dict fields)
      | .ok none => p.finish .absent := by
  simp only [bind, hr]
  cases r.assemble h p.nilable lenient with
  | error e => rfl
  | ok found => cases found <;> rfl

end Parameter

end TypedHeaders
