import TypedHeaders.Proofs.BindPaths
import TypedHeaders.Proofs.Descriptors

/-!
# Finding parameters by their tokens

The token of a parameter is the name of its header. A set finds the first parameter that has
a token (`get?_eq_some_iff`), so that each is found by its own token if no two have the same
(`get?_of_nodup`).

This is so for the parameters of a handler if their headers are all derived from their names
(`Handler.get?_header_of_derived`), also where underscores are converted for some of them and
kept for others. A declared name has no hyphens. It can be read off its header, whichever of
the two it has: hyphens there stand for underscores (`declaredName_headerKey`). Declared names
are different, hence so are the headers.
-/

namespace TypedHeaders

/-! ## Tokens of a set -/

namespace BindingSet

variable {s : BindingSet} {token : String} {p : Parameter}

theorem get?_eq_some_iff :
    s.get? token = some p ↔ ∃ before after, s.params = before ++ p :: after ∧ p.header = token ∧
      ∀ q ∈ before, q.header ≠ token := by
  rw [get?, List.find?_eq_some_iff_append]
  simp only [decide_eq_true_eq, Bool.not_eq_true', decide_eq_false_iff_not]
  constructor
  · rintro ⟨htoken, before, after, hs, hbefore⟩
    exact ⟨before, after, hs, htoken, hbefore⟩
  · rintro ⟨before, after, hs, htoken, hbefore⟩
    exact ⟨htoken, before, after, hs, hbefore⟩

theorem get?_eq_none_iff : s.get? token = none ↔ ∀ p ∈ s.params, p.header ≠ token := by
  simp only [get?, List.find?_eq_none, decide_eq_true_eq]
  rfl

/-- If no two parameters have the same token, each is found by its own. -/
theorem get?_of_nodup (hs : (s.params.map (·.header)).Nodup) (hp : p ∈ s.params) :
    s.get? p.header = some p := by
  obtain ⟨before, after, hsplit⟩ := List.append_of_mem hp
  refine get?_eq_some_iff.2 ⟨before, after, hsplit, rfl, fun q hq hsame => ?_⟩
  rw [hsplit, List.map_append, List.map_cons, List.nodup_append] at hs
  exact hs.2.2 _ (List.mem_map_of_mem hq) _ List.mem_cons_self hsame

end BindingSet

/-! ## Derived names -/

/-- The declared name that a header's name is derived from, with underscores for the hyphens. -/
def declaredName (key : String) : String :=
  String.ofList (key.toList.map fun c => if c = '-' then '_' else c)

/-- A declared name, which has no hyphens, can be read off the header's name. -/
theorem declaredName_headerKey {name : String} (hname : '-' ∉ name.toList) (convert : Bool) :
    declaredName (headerKey convert name) = name := by
  have hne : ∀ c ∈ name.toList, c ≠ '-' := fun c hc heq => hname (heq ▸ hc)
  suffices hback : ((headerKey convert name).toList.map fun c => if c = '-' then '_' else c) =
      name.toList by
    rw [declaredName, hback, String.ofList_toList]
  cases convert with
  | false => exact (List.map_congr_left fun c hc => if_neg (hne c hc)).trans (List.map_id _)
  | true =>
    rw [headerKey, if_pos rfl, String.toList_ofList, List.map_map]
    refine (List.map_congr_left fun c hc => ?_).trans (List.map_id _)
    by_cases hc' : c = '_'
    · simp [hc']
    · simp [hc', hne c hc]

namespace Handler

variable {convert : Bool} {h : Handler} {set : BindingSet}

/-- The declared name of a parameter can be read off its header, if that is derived from it. -/
theorem BoundPlace.Declares.declaredName_header {place : BoundPlace} {p : Parameter}
    (hp : place.Declares convert p) (hname : '-' ∉ place.name.toList)
    (hderived : (Parameter.markerFor none place.type).name.getD "" = "") :
    declaredName p.header = p.name := by
  rw [Parameter.header_of_ofType hp.ofType, Marker.headerName_eq_headerKey hderived,
    declaredName_headerKey hname, hp.name]

/-- Different parameters of a handler have different headers if these are all derived from their
    names, in whatever way underscores are treated for each of them. So each parameter is found by
    its own header. The names in a signature are different ones, and have no hyphens. -/
theorem get?_header_of_derived (settings : Settings) (said : Option Bool)
    (hnames : (h.params.map (·.1)).Nodup) (hplain : ∀ param ∈ h.params, '-' ∉ param.1.toList)
    (hderived : ∀ place ∈ h.boundPlaces,
      (Parameter.markerFor none place.type).name.getD "" = "")
    (hset : h.bindingSet (settings.converts said) = .ok set) :
    (set.params.map (·.header)).Nodup ∧ ∀ p ∈ set.params, set.get? p.header = some p := by
  have hlaid := isLaidOut_of_bindingSet hset
  have hback : (set.params.map (·.header)).map declaredName = set.params.map (·.name) := by
    rw [List.map_map]
    refine List.map_congr_left fun p hp => ?_
    obtain ⟨place, hplace, hp⟩ := exists_of_forall₂ hlaid.declared hp
    have hparam := List.mem_of_getElem? (mem_boundPlaces_iff.1 hplace).1
    exact hp.declaredName_header (hplain _ hparam) (hderived place hplace)
  -- Headers that were the same would be taken back to the same name.
  have hnodup : (set.params.map (·.header)).Nodup := by
    refine List.Nodup.of_map declaredName ?_
    rw [hback, hlaid.names]
    exact nodup_boundPlaces hnames
  exact ⟨hnodup, fun p hp => BindingSet.get?_of_nodup hnodup hp⟩

/-- Underscores are converted for the first and the last place, and kept for the second one. -/
theorem get?_header_of_derived_mixed :
    let marked (m : Marker) : TypeExpr := (TypeExpr.plain .str).annotate [.marker m]
    let h : Handler :=
      { name := "trace"
        params :=
          [("span_id", some (marked {})),
            ("span__id", some (marked { convertUnderscores := some false })), ("request", none),
            ("_span_id", some (marked { name := some "" }))] }
    ∃ set, h.bindingSet (Settings.converts {} none) = .ok set ∧
      set.params.map (·.header) = ["span-id", "span__id", "-span-id"] ∧
      (set.params.map (·.header)).Nodup ∧ ∀ p ∈ set.params, set.get? p.header = some p := by
  intro marked h
  refine ⟨_, rfl, by decide, ?_⟩
  exact get?_header_of_derived (h := h) {} none (by decide) (by decide) (by decide) rfl

end Handler

end TypedHeaders
