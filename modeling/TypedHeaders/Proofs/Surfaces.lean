import TypedHeaders.Proofs.Demos
import TypedHeaders.Proofs.Lines
import TypedHeaders.CommandLine

/-!
# The two surfaces

A demo handler can be reached in two ways: by a request to its route, and by the
command `check`, which is given the headers as lines. Headers that a line carries
as they are (`FitsLine`) are the same headers either way, and then the two agree
(`Demo.Agrees`): the command ends well if the request is answered with what was
bound, and otherwise prints the body that the request is answered with.

* `ofLines_map_lineOf`: lines are read as the headers that they are written from;
* `CommandLine.parse_checkArguments`: the arguments, as the command;
* `Demo.check_agrees`: the command and the request.
-/

namespace TypedHeaders

/-! ## Headers on lines -/

/-- A header on a line. -/
def lineOf (entry : String × String) : String := entry.1 ++ ": " ++ entry.2

/-- A header that a line carries as it is, and that is not read as an option: it is Latin-1, its
    name is in lower case and has no colon, and neither its name nor its value has blanks at its
    ends. It does not name the host, either, of which the address of a request is made. -/
@[mk_iff]
structure FitsLine (entry : String × String) : Prop where
  latinName : Text.isLatin entry.1.toList = true
  latinValue : Text.isLatin entry.2.toList = true
  lower : Text.lower entry.1 = entry.1
  noColon : ':' ∉ entry.1.toList
  noHyphen : entry.1.toList.head? ≠ some '-'
  notHost : entry.1 ≠ "host"
  trimmedName : Text.trim Text.blank entry.1.toList = entry.1.toList
  trimmedValue : Text.trim Text.blank entry.2.toList = entry.2.toList

variable {entry : String × String} {entries : List (String × String)}

instance : DecidablePred FitsLine := fun _ => decidable_of_iff _ (fitsLine_iff _).symm

theorem toList_lineOf (entry : String × String) :
    (lineOf entry).toList = entry.1.toList ++ ':' :: ' ' :: entry.2.toList := by
  rw [lineOf, String.toList_append, String.toList_append, List.append_assoc]
  rfl

/-- The line is not read as an option. -/
theorem head?_lineOf (he : FitsLine entry) : (lineOf entry).toList.head? ≠ some '-' := by
  have hyphen := he.noHyphen
  rw [toList_lineOf]
  cases h : entry.1.toList with
  | nil => simp
  | cons c s =>
    rw [h] at hyphen
    exact hyphen

/-- What stands on a line: there is one blank, after the colon. -/
def spacedLine (entry : String × String) : HeaderLine := ⟨entry.1, entry.2, "", "", " ", ""⟩

theorem text_spacedLine (entry : String × String) : (spacedLine entry).text = lineOf entry := by
  refine String.toList_inj.1 ?_
  rw [HeaderLine.toList_text, toList_lineOf, spacedLine]
  simp

theorem isLegible_spacedLine (he : FitsLine entry) : (spacedLine entry).IsLegible where
  noColon := he.noColon
  trimmedName := Text.trim_eq_self_iff.1 he.trimmedName
  trimmedValue := Text.trim_eq_self_iff.1 he.trimmedValue
  blank := by
    have hone : Text.blank.contains ' ' = true := by decide
    simp [spacedLine, hone]

theorem ofItem_of_fitsLine (he : FitsLine entry) :
    Headers.ofItem (.pair (.text entry.1) (.one (.text entry.2))) = .ok [entry] := by
  have hname : Headers.checkLatin entry.1 entry.1 = .ok entry.1 := if_pos he.latinName
  have hvalue : Headers.checkWritten entry.1 (some entry.2) = .ok entry.2 := if_pos he.latinValue
  have htexts : HeaderValue.texts (.one (.text entry.2)) = [some entry.2] := rfl
  rw [Headers.ofItem, he.lower, hname, htexts]
  simp only [List.mapM_cons, hvalue]
  rfl

/-- Lines are read as the headers that they are written from. -/
theorem ofLines_map_lineOf (h : ∀ entry ∈ entries, FitsLine entry) :
    Headers.ofLines (entries.map lineOf) = .ok ⟨entries⟩ := by
  have hlines : Headers.ofLines (entries.map lineOf) =
      Headers.ofItems (entries.map fun e => .pair (.text e.1) (.one (.text e.2))) := by
    have hlegible : ∀ l ∈ entries.map spacedLine, l.IsLegible := by
      intro l hl
      obtain ⟨e, he, rfl⟩ := List.mem_map.1 hl
      exact isLegible_spacedLine (h e he)
    have htext : HeaderLine.text ∘ spacedLine = lineOf := funext text_spacedLine
    have hread := Headers.ofLines_text hlegible
    rw [List.map_map, List.map_map, List.map_map, htext] at hread
    exact hread
  have hitems : (entries.map fun e => .pair (.text e.1) (.one (.text e.2))).mapM Headers.ofItem =
      .ok (entries.map fun e => [e]) := by
    rw [mapM_eq_ok, List.forall₂_map_left_iff, List.forall₂_map_right_iff, List.forall₂_same]
    exact fun e he => ofItem_of_fitsLine (h e he)
  rw [hlines]
  refine bind_eq_ok.2 ⟨_, hitems, ?_⟩
  rw [← List.flatMap_def, List.flatMap_singleton']
  rfl

/-! ## Commands -/

namespace CommandLine

variable {flags : List Flag} {c : Choices}

theorem classify_word {arg : String} (h : arg.toList.head? ≠ some '-') :
    classify flags arg = .ok (.word arg) := by
  unfold classify
  split
  · rename_i hs
    exact (h (by rw [hs]; rfl)).elim
  · rename_i hs
    exact (h (by rw [hs]; rfl)).elim
  · rfl

/-- The arguments that give headers, one by one. -/
def headerArguments (entries : List (String × String)) : List String :=
  entries.flatMap fun e => ["-H", lineOf e]

theorem classifyAll_headerArguments (h : ∀ entry ∈ entries, FitsLine entry) :
    classifyAll Verb.check.flags (headerArguments entries) =
      .ok (entries.flatMap fun e => [.named .header none, .word (lineOf e)]) := by
  induction entries with
  | nil => rfl
  | cons e entries ih =>
    have hflag : classify Verb.check.flags "-H" = .ok (.named .header none) := by decide +kernel
    have hword : classify Verb.check.flags (lineOf e) = .ok (.word (lineOf e)) :=
      classify_word (head?_lineOf (h e (List.mem_cons_self ..)))
    have hrest := ih fun e he => h e (List.mem_cons_of_mem _ he)
    rw [headerArguments, List.flatMap_cons, List.cons_append, List.singleton_append, classifyAll,
      hflag]
    refine bind_eq_ok.2 ⟨_, rfl, bind_eq_ok.2 ⟨_, ?_, rfl⟩⟩
    rw [classifyAll, hword]
    exact bind_eq_ok.2 ⟨_, rfl, bind_eq_ok.2 ⟨_, hrest, rfl⟩⟩

/-- Each header adds its line. -/
theorem ofArguments_headers (entries : List (String × String)) :
    Choices.ofArguments Verb.check.flags c
        (entries.flatMap fun e => [.named .header none, .word (lineOf e)]) =
      .ok { c with lines := c.lines ++ entries.map lineOf } := by
  induction entries generalizing c with
  | nil => rw [List.map_nil, List.append_nil]; rfl
  | cons e entries ih =>
    -- An option and the word after it are acted on together.
    have hstep := ih (c := { c with lines := c.lines ++ [lineOf e] })
    rw [List.append_assoc] at hstep
    exact hstep

/-- The first word is the handler. -/
theorem ofArguments_handler {handler : String} (hc : c.handler = none)
    (entries : List (String × String)) :
    Choices.ofArguments Verb.check.flags c
        (.word handler :: entries.flatMap fun e => [.named .header none, .word (lineOf e)]) =
      .ok { c with handler := some handler, lines := c.lines ++ entries.map lineOf } := by
  have hrest := ofArguments_headers (c := { c with handler := some handler }) entries
  cases entries with
  | nil => exact (if_pos hc).trans hrest
  | cons e entries => exact (if_pos hc).trans hrest

/-- The arguments that check headers against a handler. -/
def checkArguments (handler : String) (entries : List (String × String)) : List String :=
  "check" :: handler :: headerArguments entries

/-- The arguments ask for the command to check the lines, under the policy of the environment. -/
theorem parse_checkArguments {handler : String} (hhandler : handler.toList.head? ≠ some '-')
    (h : ∀ entry ∈ entries, FitsLine entry) :
    parse (checkArguments handler entries) =
      .ok { verb := .check, handler := handler, lines := entries.map lineOf } := by
  have hclassify : classifyAll Verb.check.flags (handler :: headerArguments entries) =
      .ok (.word handler :: entries.flatMap fun e => [.named .header none, .word (lineOf e)]) := by
    rw [classifyAll, classify_word hhandler]
    exact bind_eq_ok.2 ⟨_, rfl, bind_eq_ok.2 ⟨_, classifyAll_headerArguments h, rfl⟩⟩
  have hcommand : classify [.help] "check" = .ok (.word "check") := classify_word (by decide)
  rw [parse, checkArguments, parseFrom, hcommand]
  refine bind_eq_ok.2 ⟨_, rfl, bind_eq_ok.2 ⟨_, hclassify, ?_⟩⟩
  exact bind_eq_ok.2 ⟨_, ofArguments_handler rfl entries, rfl⟩

end CommandLine

/-! ## Agreement -/

theorem Document.ofFields_eq_map (fields : Entries Value) :
    ofFields fields = fields.map fun f => (f.1, .ofValue f.2) := by
  induction fields with
  | nil => rw [ofFields, List.map_nil]
  | cons f fields ih => rw [ofFields, ih, List.map_cons]

namespace Demo

variable {d : Demo} {b : Binder} {h : Headers} {lenient : Bool}

/-- What names the demo handler on the command line. -/
def target (d : Demo) : String := "hdrbind.app:" ++ d.handler.name

/-- The path of the demo handler's route. -/
def path (d : Demo) : String := "/" ++ d.handler.name

/-- The demo handler that a function is. -/
def ofEntity? : Entity → Option Demo
  | .function _ d => d
  | _ => none

theorem ofEntity?_load (d : Demo) : (Catalogue.load d.target).toOption.bind ofEntity? = some d := by
  cases d <;> decide +kernel

theorem head?_target (d : Demo) : d.target.toList.head? ≠ some '-' := by
  cases d <;> decide

theorem demo?_path (d : Demo) (h : Headers) :
    ({ path := d.path, headers := h } : Request).demo? = some d := by
  cases d <;> rfl

/-- The target leads to the binder of the demo handler. -/
theorem loadBinder_target {convert : Bool} (hb : Binder.ofHandler convert d.handler = .ok b) :
    CommandLine.loadBinder convert d.target = .ok b := by
  have hload := ofEntity?_load d
  cases he : Catalogue.load d.target with
  | error e =>
    rw [he] at hload
    cases hload
  | ok e =>
    rw [he] at hload
    cases e with
    | function name d' =>
      obtain rfl : d' = some d := hload
      have hbinder : (Binder.ofHandler convert d.handler).mapError CommandLine.RunError.declaration =
          .ok b := by
        rw [hb]
        rfl
      rw [CommandLine.loadBinder, he]
      exact bind_eq_ok.2 ⟨_, rfl, hbinder⟩
    | _ => cases hload

/-- All demo handlers but one answer with what was bound, under the same names. -/
theorem answer_eq (hd : d ≠ .trace) (bound : Entries Value) :
    d.answer bound = .ofValue (.dict bound) := by
  have hname : d.answerName = id := by
    cases d with
    | trace => exact (hd rfl).elim
    | whoami | quota => rfl
  rw [answer, hname, Document.ofValue, Document.ofFields_eq_map]
  rfl

/-- The command and the request agree: either both succeed or both fail; what was bound is told by
    both, except that one handler has another name for it; and so is what failed. -/
structure Agrees (d : Demo) (o : CommandLine.Outcome) (r : Response) : Prop where
  code : o.code = 0 ∨ o.code = 1
  succeeds_iff : o.code = 0 ↔ r.status = 200
  fails_iff : o.code = 1 ↔ r.status = 400
  failure : r.status = 400 → r.body = .document o.output
  bound : d ≠ .trace → r.status = 200 →
    ∃ body, r.body = .document body ∧ o.output = .object [("ok", .bool true), ("bound", body)]

theorem agrees_of_bound (d : Demo) (bound : Entries Value) :
    d.Agrees ⟨0, .object [("ok", .bool true), ("bound", .ofValue (.dict bound))]⟩
      ⟨200, .document (d.answer bound)⟩ where
  code := .inl rfl
  succeeds_iff := iff_of_true rfl rfl
  fails_iff := iff_of_false nofun nofun
  failure h := by cases h
  bound hd _ := ⟨_, rfl, by rw [answer_eq hd]⟩

theorem agrees_of_failure (d : Demo) (body : Document) :
    d.Agrees ⟨1, body⟩ ⟨Failure.status, .document body⟩ where
  code := .inr rfl
  succeeds_iff := iff_of_false nofun nofun
  fails_iff := iff_of_true rfl rfl
  failure _ := rfl
  bound _ h := by cases h

/-- The command binds the headers under the policy of the environment. -/
theorem run_check {s : Settings} {entries : List (String × String)}
    (hb : Binder.ofHandler s.convertUnderscores d.handler = .ok b)
    (h : ∀ entry ∈ entries, FitsLine entry) (e : Environment) :
    CommandLine.Command.run
        { verb := .check, handler := d.target, lines := entries.map lineOf } s e =
      match b.bind ⟨entries⟩ (s.policy e) with
      | .ok bound => .ok ⟨0, .object [("ok", .bool true), ("bound", .ofValue (.dict bound))]⟩
      | .error (.failure f) => .ok ⟨1, .ofTexts f.body⟩
      | .error err => .error (.bind err) := by
  rw [CommandLine.Command.run]
  dsimp only
  rw [CommandLine.check, loadBinder_target hb, ofLines_map_lineOf h]
  rfl

/-- The request to the route is answered with what comes of binding the headers. -/
theorem respond_path (s : Service) (d : Demo) (entries : List (String × String)) (lenient : Bool) :
    (s.respond { path := d.path, headers := ⟨entries⟩ } lenient).2 =
      match (s.binder d).bind ⟨entries⟩ lenient with
      | .ok bound => .ok ⟨200, .document (d.answer bound)⟩
      | .error (.failure f) => .ok ⟨Failure.status, .document (.ofTexts f.body)⟩
      | .error err => .error (.bind err) := by
  rw [Service.respond_of_demo (d.demo?_path ⟨entries⟩), Service.answer, Binder.call_nil]
  dsimp only
  cases (s.binder d).bind ⟨entries⟩ lenient with
  | ok bound => rfl
  | error err => cases err <;> rfl

/-- Under all settings, policies and counters, checking headers on lines agrees with requesting the
    route with the same headers. -/
theorem check_agrees (d : Demo) (s : Settings) (e : Environment) (counted : Metrics)
    {entries : List (String × String)} (h : ∀ entry ∈ entries, FitsLine entry) :
    ∃ service command outcome response,
      Service.start s = .ok service ∧
      CommandLine.parse (CommandLine.checkArguments d.target entries) = .ok command ∧
      command.run s e = .ok outcome ∧
      (({ service with metrics := counted } : Service).respond
        { path := d.path, headers := ⟨entries⟩ } (s.policy e)).2 = .ok response ∧
      d.Agrees outcome response := by
  obtain ⟨service, hstart, rfl, -, hs⟩ := Service.exists_start s
  have hparse := CommandLine.parse_checkArguments d.head?_target h
  have hrun := run_check (hs d) h e
  have hrespond := respond_path { service with metrics := counted } d entries (service.settings.policy e)
  have hbinder : ({ service with metrics := counted } : Service).binder d = service.binder d := by
    cases d <;> rfl
  rw [hbinder] at hrespond
  -- Both go back to one binding, of the same headers under the same policy.
  cases hbind : (service.binder d).bind ⟨entries⟩ (service.settings.policy e) with
  | ok bound =>
    rw [hbind] at hrun hrespond
    exact ⟨service, _, _, _, hstart, hparse, hrun, hrespond, agrees_of_bound d bound⟩
  | error err =>
    obtain ⟨f, rfl, -⟩ := Demo.bind_error (hs d) hbind
    rw [hbind] at hrun hrespond
    exact ⟨service, _, _, _, hstart, hparse, hrun, hrespond, agrees_of_failure d (.ofTexts f.body)⟩

/-- A client whose scopes are on two lines has a quota, told by both. -/
theorem check_agrees_quota :
    let entries := [("x-client-id", "c-1"), ("x-client-tier", "pro"), ("x-client-scopes", "read"),
      ("x-client-scopes", "write"), ("x-rate-limit", "10")]
    ∃ service command outcome response body,
      Service.start {} = .ok service ∧
      CommandLine.parse (CommandLine.checkArguments quota.target entries) = .ok command ∧
      command.run {} {} = .ok outcome ∧ outcome.code = 0 ∧
      (({ service with metrics := {} } : Service).respond
        { path := quota.path, headers := ⟨entries⟩ } true).2 = .ok response ∧
      response.body = .document body ∧
      outcome.output = .object [("ok", .bool true), ("bound", body)] := by
  intro entries
  obtain ⟨service, command, outcome, response, hstart, hparse, hrun, hrespond, hagrees⟩ :=
    quota.check_agrees {} {} {} (show ∀ entry ∈ entries, FitsLine entry by decide +kernel)
  have hstatus : (Service.start {}).toOption.map (fun s =>
      (({ s with metrics := {} } : Service).respond
        { path := quota.path, headers := ⟨entries⟩ } true).2.toOption.map Response.status) =
      some (some 200) := by decide +kernel
  replace hrespond : (({ service with metrics := {} } : Service).respond
      { path := quota.path, headers := ⟨entries⟩ } true).2 = .ok response := hrespond
  rw [hstart, Except.toOption, Option.map_some, hrespond] at hstatus
  have hok : response.status = 200 := Option.some.inj (Option.some.inj hstatus)
  obtain ⟨body, hbody, houtput⟩ := hagrees.bound nofun hok
  exact ⟨service, command, outcome, response, body, hstart, hparse, hrun,
    hagrees.succeeds_iff.2 hok, hrespond, hbody, houtput⟩

end Demo

end TypedHeaders
