import TypedHeaders.Proofs.Blame
import TypedHeaders.Proofs.Soundness

/-!
# Absent and empty headers

What a parameter that is bound from its own header comes to where that header is
absent or empty. If the parameter is nilable, an empty header is nothing under
either policy, but an absent one only under the lenient one; in all other cases
it is missing. A header with any other values, two empty ones included, is cast,
and then neither the policy nor nilability counts.

That something which is cast is bound to nothing is another matter. The notes of a
parameter cannot bring that about (`Parameter.finish_ne_absent`): constraints ask
more of a value, but do not make it nothing (`convert_absent_of_append`). So it
depends on the conversion alone, which makes nothing of nothing only
(`Parameter.MakesSomething`) for every parameter that is made from a declaration
and bound from its own header (`makesSomething_of_declare`).

* `populate_absence`: which values of the header are bound to nothing, which are
  missing, and what becomes of the others.
-/

namespace TypedHeaders

open Converted

/-! ## Constraints do not make nothing -/

section Constraints

variable {cs ds : List Constraint} {v w : Value}

/-- Only nothing is checked to be nothing. -/
theorem Constraint.eq_absent_of_checkAll {schema : String}
    (hv : checkAll schema cs v = .ok .absent) : v = .absent := by
  cases hcs : cs.any isReshaping with
  | true =>
    obtain ⟨s, -, hs⟩ := checkAll_of_reshaping hcs hv
    cases hs
  | false => exact (eq_of_checkAll hcs hv).symm

/-- A conversion that makes nothing of a value under constraints does so under fewer of them, if
    the limits that it checks itself do not count for that. -/
theorem TypeExpr.within_absent_of_append {t : TypeExpr} {own : Limits → Converted Value}
    (hown : ∀ l l', (own l).result = .ok .absent → (own l').result = .ok .absent)
    (hw : (t.within (cs ++ ds) own).result = .ok .absent) :
    (t.within cs own).result = .ok .absent := by
  obtain ⟨x, hx, hcheck⟩ := within_result_eq_ok.1 hw
  obtain rfl := Constraint.eq_absent_of_checkAll hcheck
  refine within_result_eq_ok.2 ⟨.absent, hown _ _ hx, ?_⟩
  rw [List.dropWhile_append] at hcheck
  split at hcheck
  · rename_i hall
    rw [List.isEmpty_iff.1 hall]
    rfl
  · obtain ⟨y, hy, hcheck⟩ := Constraint.checkAll_append.1 hcheck
    obtain rfl := Constraint.eq_absent_of_checkAll hcheck
    exact hy

theorem gather_ne_absent {kind : CollectionKind} {l : Limits} {items : List (Converted Value)} :
    (gather kind l items).result ≠ .ok .absent := by
  cases kind <;> simp [gather]

/-- The limits of a plain type do not count for what is converted to nothing. -/
theorem convertPlain_absent {p : PlainType} {l l' : Limits}
    (hw : (convertPlain p l v).result = .ok .absent) :
    (convertPlain p l' v).result = .ok .absent := by
  cases p with
  | nothing | any | object => exact hw
  | str | int | float | decimal | bytes =>
    simp [convertPlain] at hw
  | bool => simp [convertPlain] at hw
  | dict =>
    simp only [convertPlain] at hw
    split at hw
    · simp [gatherDictionary] at hw
    · cases hw
  | list | genericList => simp [convertPlain, gatherAnything] at hw
  | tuple | set =>
    obtain ⟨items, -, hw⟩ := bind_result_eq_ok.1 hw
    exact absurd hw gather_ne_absent

mutual

/-- What is converted to nothing under constraints is converted to nothing under fewer of them. -/
theorem convert_absent_of_append : (t : TypeExpr) → (cs ds : List Constraint) → {v : Value} →
    (convert t (cs ++ ds) v).result = .ok .absent → (convert t cs v).result = .ok .absent
  | .plain p, cs, ds, v, hw => by
    rw [convert] at hw ⊢
    exact TypeExpr.within_absent_of_append (fun _ _ => convertPlain_absent) hw
  | .enum _, cs, ds, v, hw | .literal _, cs, ds, v, hw => by
    rw [convert] at hw ⊢
    exact TypeExpr.within_absent_of_append (fun _ _ h => h) hw
  | .collection form item, cs, ds, v, hw => by
    rw [convert] at hw ⊢
    refine TypeExpr.within_absent_of_append (fun l l' hl => ?_) hw
    split at hl
    · exact hl
    · obtain ⟨items, -, hl⟩ := bind_result_eq_ok.1 hl
      split at hl
      · simp [gatherAnything] at hl
      · exact absurd hl gather_ne_absent
  | .fixedTuple ts, cs, ds, v, hw => by
    rw [convert] at hw ⊢
    exact TypeExpr.within_absent_of_append (fun _ _ hl => by simp at hl) hw
  | .mapping key value, cs, ds, v, hw => by
    rw [convert] at hw ⊢
    refine TypeExpr.within_absent_of_append (fun _ _ hl => ?_) hw
    split at hl
    · simp [gatherDictionary] at hl
    · cases hl
  | .union style ts, cs, ds, v, hw => by
    rw [convert] at hw ⊢
    split_ifs at hw ⊢
    · exact hw
    · exact convertOther_absent_of_append ts cs ds hw
    · exact TypeExpr.within_absent_of_append (fun _ _ h => h) hw
  | .annotated t notes, cs, ds, v, hw => by
    rw [convert] at hw ⊢
    -- The constraints of the notes come first, so that those left out are still the last ones.
    rw [← List.append_assoc] at hw
    exact convert_absent_of_append t _ ds hw
  | .presence _ t, cs, ds, v, hw => by
    rw [convert] at hw ⊢
    exact convert_absent_of_append t cs ds hw
  | .record _ _, cs, ds, v, hw => by
    rw [convert_record] at hw ⊢
    exact TypeExpr.within_absent_of_append (fun _ _ h => h) hw

theorem convertOther_absent_of_append : (ts : List TypeExpr) → (cs ds : List Constraint) →
    {v : Value} → (convertOther ts (cs ++ ds) v).result = .ok .absent →
      (convertOther ts cs v).result = .ok .absent
  | [], _, _, _, hw => hw
  | t :: ts, cs, ds, v, hw => by
    rw [convertOther] at hw ⊢
    split_ifs at hw ⊢
    · exact convertOther_absent_of_append ts cs ds hw
    · exact convert_absent_of_append t cs ds hw

end

theorem convertEach_filter (ts : List TypeExpr) :
    convertEach (ts.filter fun t => !t.isNothing) v = convertEach ts v := by
  induction ts with
  | nil => rfl
  | cons t ts ih =>
    cases ht : t.isNothing with
    | true => simpa [convertEach, ht] using ih
    | false => simp [convertEach, ht, ih]

/-- Without nothing among its members, a type makes nothing of no more values. -/
theorem convert_absent_of_stripOptional {t : TypeExpr} (hv : v ≠ .absent)
    (hw : (convert t.stripOptional [] v).result = .ok .absent) :
    (convert t [] v).result = .ok .absent := by
  cases t with
  | union style ts =>
    have hpresent (ts : List TypeExpr) : ¬(v.isAbsent = true ∧ ts.any TypeExpr.isNothing = true) :=
      fun h => hv (Value.isAbsent_iff.1 h.1)
    rw [TypeExpr.stripOptional] at hw
    rw [convert, if_neg (hpresent ts), List.countP_eq_length_filter]
    split at hw
    · rename_i u hu
      rw [if_pos (by rw [hu]; rfl), convertOther_eq [] v hu]
      exact hw
    · -- Several members remain: the union of them chooses among the same conversions.
      rename_i hseveral
      have hcount : (ts.filter fun t => !t.isNothing).length ≠ 1 := fun hone =>
        (List.length_eq_one_iff.1 hone).elim hseveral
      rw [convert, if_neg (hpresent _), List.countP_eq_length_filter, List.filter_filter] at hw
      simp only [Bool.and_self, if_neg hcount, convertEach_filter] at hw ⊢
      exact TypeExpr.within_nil_result_eq_ok.2 (TypeExpr.within_nil_result_eq_ok.1 hw)
  | _ => exact hw

end Constraints

/-! ## Types that are bound from one header -/

section PlainlyBound

variable {cs : List Constraint} {v w : Value}

/-- Whatever is converted to an enumeration becomes a member of it, or stays one by name. -/
theorem Enumeration.eq_member_of_convert {e : Enumeration} (hw : (e.convert v).result = .ok w) :
    ∃ label, w = .member e label := by
  have hfound {a : Atom} (hw : (e.findAtom a).result = .ok w) : ∃ label, w = .member e label :=
    (isMember_of_findAtom hw).imp fun _ h => h.1
  unfold Enumeration.convert at hw
  cases v with
  | member e' label =>
    dsimp only at hw
    split at hw
    · rename_i heq
      subst heq
      exact ⟨label, (Except.ok.inj hw).symm⟩
    · split at hw
      · exact hfound hw
      · cases hw
  | atom a => exact hfound hw
  | _ => cases hw

/-- What a conversion within constraints makes nothing of, the conversion itself does. -/
theorem TypeExpr.exists_absent_of_within {t : TypeExpr} {own : Limits → Converted Value}
    (hw : (t.within cs own).result = .ok .absent) : ∃ l, (own l).result = .ok .absent := by
  obtain ⟨x, hx, hcheck⟩ := within_result_eq_ok.1 hw
  exact ⟨_, Constraint.eq_absent_of_checkAll hcheck ▸ hx⟩

/-- A scalar without notes is never nothing. -/
theorem convert_scalar_ne_absent {t : TypeExpr} (hu : t.unwrap = t)
    (ht : t.scalarTag?.isSome = true) : (convert t cs v).result ≠ .ok .absent := by
  intro hw
  cases t with
  | plain p =>
    rw [convert] at hw
    obtain ⟨l, hl⟩ := TypeExpr.exists_absent_of_within hw
    cases p with
    | str | int | float | decimal | bool => simp [convertPlain] at hl
    | _ => cases ht
  | enum e =>
    rw [convert] at hw
    obtain ⟨-, hl⟩ := TypeExpr.exists_absent_of_within hw
    obtain ⟨label, hlabel⟩ := Enumeration.eq_member_of_convert hl
    cases hlabel
  | literal values =>
    rw [convert] at hw
    obtain ⟨-, hl⟩ := TypeExpr.exists_absent_of_within hw
    obtain ⟨a, ha, habsent⟩ := map_eq_ok.1 (ofReason_result_eq_ok.1 hl)
    cases habsent
    cases atomTag?_of_commonTag ht (mem_of_convertLiteral ha)
  | annotated => exact absurd hu (TypeExpr.unwrap_ne_annotated _)
  | _ => cases ht

/-- Neither is a collection of scalars. -/
theorem convert_array_ne_absent {form : CollectionForm} {item : TypeExpr}
    (ht : item.scalarTag?.isSome = true) :
    (convert (.collection form item) cs v).result ≠ .ok .absent := by
  intro hw
  obtain ⟨_, _, _, -, -, -, -, hw, -⟩ := (convert_array_eq_ok ht).1 hw
  cases hw

/-- What is bound from one header is nothing only where the type has nothing beside its base. -/
theorem convert_plainlyBound_ne_absent {t : TypeExpr} (hu : t.unwrap = t)
    (ht : t.IsPlainlyBound) : (convert t cs v).result ≠ .ok .absent := by
  rcases ht with ht | ht
  · exact convert_scalar_ne_absent hu ht
  · cases t with
    | collection form item => exact convert_array_ne_absent ht
    | _ => cases ht

end PlainlyBound

/-! ## Finishing what is cast -/

namespace Parameter

variable {p q : Parameter} {v : Value}

/-- The conversion to the declared type makes nothing of nothing only. -/
def MakesSomething (p : Parameter) : Prop := ∀ v, p.type.convert v = .ok .absent → v = .absent

/-- The notes cannot make nothing of something either. -/
theorem finish_ne_absent (hp : p.MakesSomething) (hv : v ≠ .absent) :
    p.finish v ≠ .ok .absent := by
  intro hw
  obtain ⟨x, hx, ⟨-, rfl⟩ | ⟨⟨-, hne⟩, hw⟩⟩ := finish_eq_ok hw
  · exact hv (hp v hx)
  · have hplain := convert_absent_of_stripOptional hne (convert_absent_of_append _ [] _ hw)
    exact hne (hp x hplain)

/-- A parameter that is made from a declaration and bound from its own header makes something of
    what is cast. -/
theorem makesSomething_of_declare {convert : Bool} {name : String} {slot : Int}
    {declared : TypeExpr} {given : Option Marker} {tag : Tag}
    (hp : declare convert name slot declared given = .ok p) (ht : p.reading.ownTag? = some tag) :
    p.MakesSomething := by
  obtain ⟨-, htype, -, -, ⟨hplain, -⟩ | ⟨_, _, hr, -⟩⟩ := of_ofType (ofType_of_declare hp)
  · rw [← base_target, ← htype] at hplain
    intro v hv
    by_contra hne
    have hpresent : v.isAbsent = false :=
      Bool.eq_false_iff.2 fun h => hne (Value.isAbsent_iff.1 h)
    rw [TypeExpr.convert_eq_ok, convert_eq_base_of_present []
      (TypeExpr.not_isUnion_of_isPlainlyBound hplain) hpresent] at hv
    exact convert_plainlyBound_ne_absent (TypeExpr.unwrap_unwrap _) hplain hv
  · rw [hr] at ht
    cases ht

/-- What is there, but cannot be finished, is not missing. -/
theorem kind_ne_missing_of_finish {f : Failure} (he : p.finish v = .error (.failure f)) :
    f.kind ≠ .missing := by
  rcases bind_eq_error.1 he with he | ⟨w, -, he⟩
  · unfold Parameter.convert at he
    split at he <;> cases he
    all_goals simp
  · unfold Restriction.check at he
    split at he
    · cases he
    · split at he <;> cases he
      simp

/-- The parameters are the same but for their names and for whether they are nilable: the type of
    one may be that of the other in a union with nothing. -/
structure SameButNilable (p q : Parameter) : Prop where
  header : q.header = p.header
  slot : q.slot = p.slot
  reading : q.reading = p.reading
  notes : q.notes = p.notes
  type : q.type = p.type ∨ p.type.base.isUnion = false ∧ q.type.base = p.type.base ∧
    q.type.baseConstraints = p.type.baseConstraints

/-- Something is converted the same, whether or not nothing is a value of the type. -/
theorem SameButNilable.convert_eq (hpq : p.SameButNilable q) (hv : v.isAbsent = false) :
    q.type.convert v = p.type.convert v := by
  rcases hpq.type with ht | ⟨hu, hbase, hcs⟩
  · rw [ht]
  · rw [TypeExpr.convert, TypeExpr.convert, convert_eq_base_of_present [] hu hv,
      convert_eq_base_of_present [] (hbase ▸ hu) hv, hbase, hcs]

/-- And so it is checked. -/
theorem SameButNilable.check_eq (hpq : p.SameButNilable q) :
    q.restriction.check q.header v = p.restriction.check p.header v := by
  have hactive : q.restriction.active = p.restriction.active :=
    congrArg (fun notes : List Note => !notes.isEmpty) hpq.notes
  rw [Restriction.check, Restriction.check, hactive, hpq.header]
  cases hv : v.isAbsent with
  | true => simp
  | false =>
    have hconvert : (q.type.stripOptional.annotate q.notes).convert v =
        (p.type.stripOptional.annotate p.notes).convert v := by
      rcases hpq.type with ht | ⟨hu, hbase, hcs⟩
      · rw [ht, hpq.notes]
      · rw [TypeExpr.convert, TypeExpr.convert, convert_annotate, convert_annotate, hpq.notes,
          convert_stripOptional_eq_base _ (hbase ▸ hu) hv, convert_stripOptional_eq_base _ hu hv,
          hbase, hcs]
    rw [restriction, restriction, hconvert]

theorem SameButNilable.finish_eq (hpq : p.SameButNilable q) (hv : v ≠ .absent) :
    q.finish v = p.finish v := by
  have hpresent : v.isAbsent = false := Bool.eq_false_iff.2 fun h => hv (Value.isAbsent_iff.1 h)
  have hconvert : q.convert v = p.convert v := by
    rw [Parameter.convert, Parameter.convert, hpq.convert_eq hpresent, hpq.header]
  rw [finish, finish, hconvert]
  exact bind_congr fun w => hpq.check_eq

/-! ## The table of absence -/

/-- What the values of a header that is neither absent nor empty are bound to. -/
def bindFilled (p : Parameter) (tag : Tag) (first : String) (rest : List String) :
    Except BindError Value :=
  match castTexts tag p.isArray first rest with
  | .ok v => p.finish v
  | .error e => .error (.uncast p.header e)

theorem kind_ne_missing_of_bindFilled {tag : Tag} {first : String} {rest : List String}
    {f : Failure} (he : p.bindFilled tag first rest = .error (.failure f)) : f.kind ≠ .missing := by
  rw [bindFilled] at he
  split at he
  · exact kind_ne_missing_of_finish he
  · cases he
    simp

/-- No text is cast to nothing, nor is what it is cast to bound to nothing. -/
theorem bindFilled_ne_absent (hp : p.MakesSomething) {tag : Tag} {first : String}
    {rest : List String} : p.bindFilled tag first rest ≠ .ok .absent := by
  intro hw
  rw [bindFilled] at hw
  split at hw
  · rename_i hcast
    exact finish_ne_absent hp (fun h => castTexts_ne_absent (h ▸ hcast)) hw
  · cases hw

theorem SameButNilable.bindFilled_eq (hpq : p.SameButNilable q) (tag : Tag) (first : String)
    (rest : List String) : q.bindFilled tag first rest = p.bindFilled tag first rest := by
  have harray : q.isArray = p.isArray := by rw [isArray, isArray, hpq.reading]
  rw [bindFilled, bindFilled, harray, hpq.header]
  cases hcast : castTexts tag p.isArray first rest with
  | ok v => exact hpq.finish_eq fun h => castTexts_ne_absent (h ▸ hcast)
  | error e => rfl

/-- How a parameter that is bound from its own header comes to its value. -/
theorem bind_of_values {tag : Tag} {h : Headers} {lenient : Bool} {values : List String}
    (htag : p.reading.ownTag? = some tag) (hv : h.values p.header = .ok values) :
    p.bind h lenient =
      match Finding.ofValues p.nilable lenient values with
      | .nothing => .ok .absent
      | .missing => .error (.missing p.header)
      | .values first rest => p.bindFilled tag first rest := by
  have hbind : p.bind h lenient = p.bindTexts tag h lenient := by
    cases hr : p.reading with
    | record r tag => rw [hr] at htag; cases htag
    | scalar tag' _ | array tag' _ =>
      rw [hr] at htag
      cases htag
      simp only [bind, hr]
  rw [hbind, bindTexts_eq, Headers.find_of_values hv]
  cases Finding.ofValues p.nilable lenient values <;> rfl

end Parameter

namespace BindingSet

/-- A parameter on its own is populated with what it is bound to. -/
theorem populate_one {p : Parameter} {h : Headers} {lenient : Bool} {feed : Feed}
    (hslot : p.slot + 1 < feed.length) :
    populate { params := [p] } h lenient feed =
      match p.bind h lenient with
      | .ok v => (feed.write p.slot v, none)
      | .error e => (feed, some e) := by
  rw [populate]
  cases hbind : p.bind h lenient with
  | ok v => rw [Feed.populate_cons_of_ok hbind hslot]; rfl
  | error e => rw [Feed.populate_cons_of_error hbind]

/-- A parameter that is bound from its own header, and whose conversion makes something of what is
    cast, is bound to nothing exactly where it is nilable and its header is empty, or absent under
    the lenient policy; and it is missing exactly where its header is empty and it is not nilable,
    or absent and it is not so that it is nilable and the policy lenient. In all other cases the
    texts are cast, converted and checked, and it does not count what the policy is, nor whether the
    parameter is nilable. -/
theorem populate_absence {p : Parameter} {tag : Tag} (htag : p.reading.ownTag? = some tag)
    (hp : p.MakesSomething) {h : Headers} {values : List String}
    (hv : h.values p.header = .ok values) (lenient : Bool) {feed : Feed}
    (hslot : p.slot + 1 < feed.length) :
    ((∃ new, populate { params := [p] } h lenient feed = (new, none) ∧
        new[p.slot]? = some .absent ∧ new[p.slot + 1]? = some (.bool true)) ↔
      p.nilable = true ∧ (values = [] ∧ lenient = true ∨ values = [""])) ∧
    ((∃ new f, populate { params := [p] } h lenient feed = (new, some (.failure f)) ∧
        f.kind = .missing) ↔
      values = [] ∧ ¬(p.nilable = true ∧ lenient = true) ∨ values = [""] ∧ ¬p.nilable = true) ∧
    (values = [] ∧ ¬(p.nilable = true ∧ lenient = true) ∨ values = [""] ∧ ¬p.nilable = true →
      populate { params := [p] } h lenient feed = (feed, some (.missing p.header))) ∧
    ∀ first rest, values = first :: rest → values ≠ [""] →
      ∀ q lenient', p.SameButNilable q →
        populate { params := [q] } h lenient' feed =
          match p.bindFilled tag first rest with
          | .ok v => (feed.write p.slot v, none)
          | .error e => (feed, some e) := by
  -- Values that are there are bound whatever the policy is, and whether or not nothing would do.
  have hfilled : ∀ first rest, values = first :: rest → values ≠ [""] →
      ∀ q lenient', p.SameButNilable q →
        populate { params := [q] } h lenient' feed =
          match p.bindFilled tag first rest with
          | .ok v => (feed.write p.slot v, none)
          | .error e => (feed, some e) := by
    rintro first rest rfl hne q lenient' hpq
    rw [populate_one (hpq.slot ▸ hslot), hpq.slot,
      Parameter.bind_of_values (hpq.reading ▸ htag) (hpq.header ▸ hv),
      Finding.ofValues_of_filled hne]
    dsimp only
    rw [hpq.bindFilled_eq]
  rw [populate_one hslot, Parameter.bind_of_values htag hv, ← Finding.ofValues_eq_nothing,
    ← Finding.ofValues_eq_missing]
  -- Both equivalences now speak of what is found, so that its cases decide them.
  cases Finding.ofValues p.nilable lenient values with
  | nothing =>
    refine ⟨iff_of_true ⟨_, rfl, Feed.write_value hslot, Feed.write_flag hslot⟩ rfl,
      iff_of_false ?_ (by simp), fun h => absurd h (by simp), hfilled⟩
    rintro ⟨_, _, hresult, -⟩
    cases hresult
  | missing =>
    refine ⟨iff_of_false ?_ (by simp), iff_of_true ⟨_, _, rfl, rfl⟩ rfl, fun _ => rfl, hfilled⟩
    rintro ⟨_, hresult, -⟩
    cases hresult
  | values first rest =>
    dsimp only
    cases hbind : p.bindFilled tag first rest with
    | ok v =>
      refine ⟨iff_of_false ?_ (by simp), iff_of_false ?_ (by simp), fun h => absurd h (by simp),
        hfilled⟩
      · rintro ⟨_, ⟨⟩, hvalue, -⟩
        rw [Feed.write_value hslot] at hvalue
        exact Parameter.bindFilled_ne_absent hp (Option.some.inj hvalue ▸ hbind)
      · rintro ⟨_, _, hresult, -⟩
        cases hresult
    | error e =>
      refine ⟨iff_of_false ?_ (by simp), iff_of_false ?_ (by simp), fun h => absurd h (by simp),
        hfilled⟩
      · rintro ⟨_, hresult, -⟩
        cases hresult
      · rintro ⟨_, f, ⟨⟩, hkind⟩
        exact Parameter.kind_ne_missing_of_bindFilled hbind hkind

set_option maxRecDepth 20000 in
/-- A nilable integer is nothing where its header is empty, and missing where it is absent under the
    strict policy; of an empty value and another one, the first cannot be cast, no more than for an
    integer that is not nilable. -/
theorem populate_absence_integer :
    let notes : List Note := [.limits { ge := some (.int 1) }]
    let declared : TypeExpr := .annotated (.optional (.plain .int)) (.marker {} :: notes)
    let p : Parameter := ⟨"n", "n", 0, .scalar .int, .optional (.plain .int), true, notes⟩
    let q : Parameter := ⟨"n", "n", 0, .scalar .int, .plain .int, false, notes⟩
    Parameter.declare true "n" 0 declared none = .ok p ∧ p.MakesSomething ∧ p.SameButNilable q ∧
      (∃ new, populate { params := [p] } ⟨[("n", "")]⟩ false (Feed.empty 2) = (new, none) ∧
        new[p.slot]? = some .absent ∧ new[p.slot + 1]? = some (.bool true)) ∧
      populate { params := [p] } {} false (Feed.empty 2) = (Feed.empty 2, some (.missing "n")) ∧
      ∀ r ∈ [p, q], ∀ lenient, populate { params := [r] } ⟨[("n", ""), ("n", "5")]⟩ lenient
        (Feed.empty 2) = (Feed.empty 2, some (.uncast "n" (.invalidInt ""))) := by
  intro notes declared p q
  have hp : Parameter.declare true "n" 0 declared none = .ok p := by cbv
  have hsomething : p.MakesSomething := Parameter.makesSomething_of_declare hp rfl
  have hpp : p.SameButNilable p := ⟨rfl, rfl, rfl, rfl, .inl rfl⟩
  have hpq : p.SameButNilable q := ⟨rfl, rfl, rfl, rfl, .inr ⟨rfl, rfl, rfl⟩⟩
  have hslot : p.slot + 1 < (Feed.empty 2).length := by decide
  have hempty : Headers.values ⟨[("n", "")]⟩ "n" = .ok [""] := by rfl
  have habsent : Headers.values {} "n" = .ok [] := by rfl
  have htwo : Headers.values ⟨[("n", ""), ("n", "5")]⟩ "n" = .ok ["", "5"] := by rfl
  have hcast : p.bindFilled .int "" ["5"] = .error (.uncast "n" (.invalidInt "")) := by
    subst p notes
    rfl
  refine ⟨hp, hsomething, hpq, ?_, ?_, fun r hr lenient => ?_⟩
  · exact (populate_absence rfl hsomething hempty false hslot).1.2 ⟨rfl, .inr rfl⟩
  · exact (populate_absence rfl hsomething habsent false hslot).2.2.1 (.inl ⟨rfl, by simp⟩)
  · have hfilled := (populate_absence rfl hsomething htwo false hslot).2.2.2 "" ["5"] rfl (by decide)
    rcases List.mem_pair.1 hr with rfl | rfl
    · rw [hfilled p lenient hpp, hcast]
    · rw [hfilled q lenient hpq, hcast]

end BindingSet

end TypedHeaders
