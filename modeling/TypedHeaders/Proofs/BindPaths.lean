import TypedHeaders.Proofs.Layout
import TypedHeaders.Proofs.RoundTrip

/-!
# Two ways to bind

The arguments of a handler can be bound in two ways. A *binder* fills a feed with
two slots for every place of the signature, and reads back the values whose flags
are set (`Binder.bind`). A *binding set* fills the shortest feed that has all its
slots, and reads back the value of every parameter, whatever the flags are
(`BindingSet.bind`).

The flags are set on just those parameters that were bound, and no value lands in
the slot of another parameter's flag. So the two ways come to the same
(`Binder.pathsAgree`): the same error, or the same values under the names of the
bound places. In a feed that was left after an error, the values whose flags are
set are those of the parameters before the one that could not be bound.
-/

namespace TypedHeaders

/-- The entries are those of the parameters: the name of each one, with what it is bound to. -/
def Entries.AreOf (h : Headers) (lenient : Bool) (ps : List Parameter) (entries : Entries Value) :
    Prop :=
  List.Forall₂ (fun p entry => entry.1 = p.name ∧ p.bind h lenient = .ok entry.2) ps entries

/-! ## Reading back -/

namespace Feed

variable {feed : Feed} {ps qs : List Parameter}

/-- Where all flags are set, they do not matter. -/
theorem arguments_eq_values (hflags : ∀ p ∈ ps, feed[p.slot + 1]? = some (.bool true)) :
    feed.arguments ps = feed.values ps := by
  rw [arguments, values]
  generalize ([] : Entries Value) = entries
  induction ps generalizing entries with
  | nil => rfl
  | cons p ps ih =>
    have hflag : feed.read (p.slot + 1) = .ok (.bool true) := by
      rw [read, hflags p List.mem_cons_self]
    rw [List.foldlM_cons, List.foldlM_cons, hflag]
    exact bind_congr fun entries => ih (fun q hq => hflags q (List.mem_cons_of_mem p hq)) entries

/-- Parameters whose flags are empty add nothing. -/
theorem arguments_append_of_absent (hflags : ∀ q ∈ qs, feed[q.slot + 1]? = some .absent) :
    feed.arguments (ps ++ qs) = feed.arguments ps := by
  rw [arguments, arguments, List.foldlM_append]
  refine (bind_congr fun entries => ?_).trans (bind_pure _)
  induction qs with
  | nil => rfl
  | cons q qs ih =>
    have hflag : feed.read (q.slot + 1) = .ok .absent := by
      rw [read, hflags q List.mem_cons_self]
    rw [List.foldlM_cons, hflag]
    exact ih fun r hr => hflags r (List.mem_cons_of_mem q hr)

/-- Where binding succeeds, every parameter was bound. -/
theorem exists_of_populate {h : Headers} {lenient : Bool} {new : Feed}
    (hnew : feed.populate h lenient ps = (new, none)) :
    ∀ p ∈ ps, ∃ v, p.bind h lenient = .ok v := by
  induction ps generalizing feed with
  | nil => exact fun p hp => absurd hp List.not_mem_nil
  | cons p ps ih =>
    obtain ⟨v, hv, -, hnew⟩ := of_populate_cons hnew
    intro q hq
    rcases List.mem_cons.1 hq with rfl | hq
    · exact ⟨v, hv⟩
    · exact ih hnew q hq

end Feed

/-! ## Filled feeds -/

namespace Feed.Filled

variable {h : Headers} {lenient : Bool} {ps : List Parameter} {old new : Feed}

/-- From a filled feed, the values of the parameters are read back under their names. -/
theorem values_eq (hf : Filled h lenient ps old new) (hnames : (ps.map (·.name)).Nodup)
    {entries : Entries Value} (hentries : entries.AreOf h lenient ps) :
    new.values ps = .ok entries := by
  let value (p : Parameter) : Value := ((p.bind h lenient).toOption).getD .absent
  have hvalue : ∀ p ∈ ps, new[p.slot]? = some (value p) := fun p hp => by
    obtain ⟨v, hv, hslot⟩ := hf.value p hp
    rw [p.outcome_eq_bind] at hv
    simp only [hslot, value, hv, Except.toOption, Option.getD_some]
  have hmap : ps.map (fun p => (p.name, value p)) = entries := by
    rw [← List.forall₂_eq_eq_eq, List.forall₂_map_left_iff]
    refine hentries.imp fun p entry ⟨hname, hbind⟩ => Prod.ext hname.symm ?_
    simp only [value, hbind, Except.toOption, Option.getD_some]
  rw [Feed.values_eq_map hnames hvalue, hmap]

/-- The flags of a filled feed mark all of the parameters. -/
theorem arguments_eq (hf : Filled h lenient ps old new) (hnames : (ps.map (·.name)).Nodup)
    {entries : Entries Value} (hentries : entries.AreOf h lenient ps) :
    new.arguments ps = .ok entries := by
  rw [Feed.arguments_eq_values hf.flag, hf.values_eq hnames hentries]

end Feed.Filled

/-- Parameters that can all be bound have entries. -/
theorem Entries.exists_areOf {h : Headers} {lenient : Bool} {ps : List Parameter}
    (hps : ∀ p ∈ ps, ∃ v, p.bind h lenient = .ok v) :
    ∃ entries : Entries Value, entries.AreOf h lenient ps := by
  induction ps with
  | nil => exact ⟨[], .nil⟩
  | cons p ps ih =>
    obtain ⟨v, hv⟩ := hps p List.mem_cons_self
    obtain ⟨entries, hentries⟩ := ih fun q hq => hps q (List.mem_cons_of_mem p hq)
    exact ⟨(p.name, v) :: entries, .cons ⟨rfl, hv⟩ hentries⟩

/-! ## The two ways -/

namespace Handler

variable {handler : Handler}

/-- The bound places have different names if the places of the signature have. -/
theorem nodup_boundPlaces (hnames : (handler.params.map (·.1)).Nodup) :
    (handler.boundPlaces.map (·.name)).Nodup := by
  suffices h : ∀ (params : List (String × Option TypeExpr)) (n : Nat),
      (((params.zipIdx n).filterMap boundPlace?).map (·.name)).Sublist (params.map (·.1)) from
    (h handler.params 0).nodup hnames
  intro params
  induction params with
  | nil => exact fun n => List.Sublist.refl _
  | cons param params ih =>
    obtain ⟨name, declared⟩ := param
    intro n
    rw [List.zipIdx_cons, List.map_cons]
    cases hplace : boundPlace? ((name, declared), n) with
    | none =>
      rw [List.filterMap_cons_none hplace]
      exact (ih (n + 1)).cons name
    | some place =>
      obtain ⟨declared', -, rfl⟩ := Option.map_eq_some_iff.1 hplace
      rw [List.filterMap_cons_some hplace]
      exact (ih (n + 1)).cons_cons name

end Handler

namespace BindingSet

variable {convert : Bool} {handler : Handler} {s : BindingSet} {h : Headers} {lenient : Bool}

theorem slot_lt_empty (s : BindingSet) {size : Nat} (hsize : s.feedSize ≤ size) {p : Parameter}
    (hp : p ∈ s.params) : p.slot + 1 < (Feed.empty size).length := by
  have := s.slot_le_feedSize hp
  rw [Feed.empty, List.length_replicate]
  omega

/-- Parameters that are all bound fill every feed of empty slots that is long enough, and both ways
    of reading back give their values. -/
theorem populate_empty_of_ok (hapart : s.params.Pairwise Parameter.Apart)
    (hnames : (s.params.map (·.name)).Nodup) {entries : Entries Value}
    (hentries : entries.AreOf h lenient s.params) {size : Nat} (hsize : s.feedSize ≤ size) :
    ∃ feed, s.populate h lenient (Feed.empty size) = (feed, none) ∧
      feed.values s.params = .ok entries ∧ s.arguments feed = .ok entries := by
  have hps : ∀ p ∈ s.params, ∃ v, p.outcome h lenient = .ok v := fun p hp => by
    obtain ⟨entry, -, -, hv⟩ := exists_of_forall₂ hentries.flip hp
    exact ⟨entry.2, (p.outcome_eq_bind h lenient).trans hv⟩
  obtain ⟨feed, hfeed, hfilled⟩ :=
    Feed.populate_of_ok hapart (fun p hp => s.slot_lt_empty hsize hp) hps
  exact ⟨feed, hfeed, hfilled.values_eq hnames hentries, hfilled.arguments_eq hnames hentries⟩

/-- A parameter that cannot be bound ends the binding with its error, in every feed of empty slots
    that is long enough; the values whose flags are set are those of the parameters before it. -/
theorem populate_empty_of_error (hapart : s.params.Pairwise Parameter.Apart)
    (hnames : (s.params.map (·.name)).Nodup) {before after : List Parameter} {p : Parameter}
    {e : BindError} (hs : s.params = before ++ p :: after) (hp : p.bind h lenient = .error e)
    {entries : Entries Value} (hentries : entries.AreOf h lenient before) {size : Nat}
    (hsize : s.feedSize ≤ size) :
    ∃ feed, s.populate h lenient (Feed.empty size) = (feed, some e) ∧
      s.arguments feed = .ok entries := by
  have hslots {q : Parameter} (hq : q ∈ s.params) := s.slot_lt_empty hsize hq
  have hbefore : ∀ q ∈ before, ∃ v, q.outcome h lenient = .ok v := fun q hq => by
    obtain ⟨entry, -, -, hv⟩ := exists_of_forall₂ hentries.flip hq
    exact ⟨entry.2, (q.outcome_eq_bind h lenient).trans hv⟩
  rw [hs] at hapart hnames
  obtain ⟨feed, hfeed, hfilled, hrest⟩ := Feed.populate_of_error hapart
    (fun q hq => hslots (hs ▸ List.mem_append_left _ hq)) hbefore
    ((p.outcome_eq_bind h lenient).trans hp)
  -- The flags of the parameters that were not bound are still empty.
  have hempty : ∀ q ∈ p :: after, feed[q.slot + 1]? = some .absent := fun q hq => by
    have hslot := hslots (hs ▸ List.mem_append_right before hq)
    rw [Feed.empty, List.length_replicate] at hslot
    rw [hrest q hq _ (.inr rfl), Feed.empty, List.getElem?_replicate_of_lt hslot]
  refine ⟨feed, by rw [populate, hs, hfeed], ?_⟩
  rw [arguments, hs, Feed.arguments_append_of_absent hempty]
  rw [List.map_append] at hnames
  exact hfilled.arguments_eq hnames.of_append_left hentries

/-- An error is that of the first parameter that cannot be bound. In the feed that is left, the
    values whose flags are set are those of the parameters before it. -/
theorem exists_of_populate_empty (hapart : s.params.Pairwise Parameter.Apart)
    (hnames : (s.params.map (·.name)).Nodup) {size : Nat} (hsize : s.feedSize ≤ size)
    {feed : Feed} {e : BindError} (hfeed : s.populate h lenient (Feed.empty size) = (feed, some e)) :
    ∃ before p after entries, s.params = before ++ p :: after ∧ p.bind h lenient = .error e ∧
      entries.AreOf h lenient before ∧ s.arguments feed = .ok entries := by
  obtain ⟨before, p, after, hs, hbefore, hp⟩ :=
    Feed.of_populate_error (fun p hp => s.slot_lt_empty hsize hp) hfeed
  obtain ⟨entries, hentries⟩ := Entries.exists_areOf hbefore
  obtain ⟨feed', hfeed', harguments⟩ :=
    populate_empty_of_error hapart hnames hs hp hentries hsize
  obtain rfl : feed = feed' := congrArg Prod.fst (hfeed.symm.trans hfeed')
  exact ⟨before, p, after, entries, hs, hp, hentries, harguments⟩

end BindingSet


/-- The two ways to bind the arguments of a binder's handler come to the same. -/
structure Binder.PathsAgree (b : Binder) (h : Headers) (lenient : Bool) : Prop where
  /-- Both end with the same error, or with the same arguments. -/
  agree : b.bind h lenient = b.set.bind h lenient
  /-- There is an argument for every bound place, in order, under its name; it is what the
      parameter is bound to. -/
  arguments : ∀ entries, b.bind h lenient = .ok entries →
    entries.map (·.1) = b.handler.boundPlaces.map (·.name) ∧ entries.AreOf h lenient b.set.params
  /-- An error is that of the first parameter that cannot be bound. In the feed that is left, the
      arguments are those before it. -/
  left : ∀ size, b.set.feedSize ≤ size → ∀ feed e,
    b.set.populate h lenient (Feed.empty size) = (feed, some e) →
      ∃ before p after entries, b.set.params = before ++ p :: after ∧ p.bind h lenient = .error e ∧
        entries.AreOf h lenient before ∧ b.set.arguments feed = .ok entries

namespace Binder

variable {convert : Bool} {b : Binder}

/-- A binder binds as its set does, if its set is laid out by its handler. -/
theorem pathsAgree_of_isLaidOut (hlaid : b.set.IsLaidOut convert b.handler)
    (hnames : (b.set.params.map (·.name)).Nodup) (h : Headers) (lenient : Bool) :
    b.PathsAgree h lenient := by
  have hsize : b.set.feedSize ≤ b.feedSize := hlaid.feedSize_le
  -- The binder may have the longer feed, but its set fills the same slots of either.
  cases hfeed : b.set.populate h lenient (Feed.empty b.set.feedSize) with
  | mk feed result =>
    cases result with
    | some e =>
      obtain ⟨before, p, after, entries, hs, hp, hentries, -⟩ :=
        BindingSet.exists_of_populate_empty hlaid.apart hnames (Nat.le_refl _) hfeed
      obtain ⟨feed', hfeed', -⟩ :=
        BindingSet.populate_empty_of_error hlaid.apart hnames hs hp hentries hsize
      have herror : b.bind h lenient = .error e :=
        (bind_error_iff hlaid).2 (populate_eq_error.2 ⟨feed', hfeed'⟩)
      refine ⟨?_, fun entries hok => ?_, fun size hle feed e hfeed =>
        BindingSet.exists_of_populate_empty hlaid.apart hnames hle hfeed⟩
      · rw [herror, BindingSet.bind, hfeed]
      · rw [herror] at hok
        cases hok
    | none =>
      obtain ⟨entries, hentries⟩ := Entries.exists_areOf (Feed.exists_of_populate hfeed)
      obtain ⟨feed', hfeed', hvalues, -⟩ :=
        BindingSet.populate_empty_of_ok hlaid.apart hnames hentries (Nat.le_refl _)
      obtain ⟨feed'', hfeed'', -, harguments⟩ :=
        BindingSet.populate_empty_of_ok hlaid.apart hnames hentries hsize
      have hok : b.bind h lenient = .ok entries :=
        bind_eq_ok.2 ⟨feed'', populate_eq_ok.2 hfeed'', harguments⟩
      refine ⟨?_, fun entries' hok' => ?_, fun size hle feed e hfeed =>
        BindingSet.exists_of_populate_empty hlaid.apart hnames hle hfeed⟩
      · rw [hok, BindingSet.bind, hfeed']
        exact hvalues.symm
      · obtain rfl : entries = entries' := Except.ok.inj (hok.symm.trans hok')
        refine ⟨?_, hentries⟩
        rw [← hlaid.names, ← List.forall₂_eq_eq_eq, List.forall₂_map_left_iff,
          List.forall₂_map_right_iff]
        exact hentries.flip.imp fun entry p hentry => hentry.1

/-- The two ways to bind come to the same for every binder, under all headers and either policy. The
    places of a signature have different names. -/
theorem pathsAgree {handler : Handler} (hnames : (handler.params.map (·.1)).Nodup)
    (hb : ofHandler convert handler = .ok b) (h : Headers) (lenient : Bool) :
    b.handler = handler ∧ b.PathsAgree h lenient := by
  obtain ⟨s, hs, hb⟩ := bind_eq_ok.1 hb
  obtain rfl : ⟨handler, s⟩ = b := Except.ok.inj hb
  have hlaid := Handler.isLaidOut_of_bindingSet hs
  exact ⟨rfl, pathsAgree_of_isLaidOut hlaid
    (hlaid.names ▸ Handler.nodup_boundPlaces hnames) h lenient⟩

set_option maxRecDepth 20000 in
/-- Of three places, the second one is not bound from a header. The arguments are nothing and
    false, which are there all the same. -/
theorem pathsAgree_of_nothing_and_false :
    let marked (t : TypeExpr) : TypeExpr := t.annotate [.marker {}]
    let handler : Handler :=
      { name := "listing"
        params :=
          [("limit", some (marked (.optional (.plain .int)))), ("request", none),
            ("full", some (marked (.plain .bool)))] }
    ∃ b, ofHandler true handler = .ok b ∧
      (∀ h lenient, b.handler = handler ∧ b.PathsAgree h lenient) ∧
      b.bind ⟨[("full", "false")]⟩ true = .ok [("limit", .absent), ("full", .bool false)] ∧
      b.bind ⟨[("full", "false"), ("limit", "ten")]⟩ true =
        .error (.uncast "limit" (.invalidInt "ten")) := by
  intro marked handler
  let limit : Parameter := ⟨"limit", "limit", 0, .scalar .int, .optional (.plain .int), true, []⟩
  let full : Parameter := ⟨"full", "full", 4, .scalar .boolean, .plain .bool, false, []⟩
  have hb : ofHandler true handler =
      .ok ⟨handler, { params := [limit, full], frozen := true }⟩ := rfl
  have hlimit : limit.bind ⟨[("full", "false")]⟩ true = .ok .absent := by
    subst limit
    rfl
  have hfull : full.bind ⟨[("full", "false")]⟩ true = .ok (.bool false) := by
    subst full
    rfl
  have huncast : limit.bind ⟨[("full", "false"), ("limit", "ten")]⟩ true =
      .error (.uncast "limit" (.invalidInt "ten")) := by
    subst limit
    rfl
  refine ⟨_, hb, pathsAgree (by decide) hb, ?_, ?_⟩
  · rw [bind, populate, BindingSet.populate, Feed.populate_cons_of_ok hlimit (by decide),
      Feed.populate_cons_of_ok hfull (by decide)]
    rfl
  · rw [bind, populate, BindingSet.populate, Feed.populate_cons_of_error huncast]
    rfl

end Binder

end TypedHeaders
