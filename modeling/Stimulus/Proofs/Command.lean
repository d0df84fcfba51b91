import Stimulus.CommandLine
import Stimulus.Proofs.Preview
import Stimulus.Proofs.Result
import Stimulus.Proofs.Run.Transcript

/-! How commands end.  A command that lacks what it needs is refused before anything is sent:
`Refused` lists the reasons, and they are the only ones for which a command fails.  Every other
failure stops a command that still ends well, with the failure as the last thing it prints. -/

namespace Stimulus

open Session (Played draw)

/-- The failures of a start: a file, a table, a server's root, or an entry that cannot be used. -/
def Error.isStartup : Error → Bool
  | .fileRead _ _ | .tableParse _ | .invalidBaseUrl _ _ | .invalidDescriptor _ _ => true
  | _ => false

/-- No step prints anything that could be taken for a failure. -/
theorem not_failureMark_prefix_stepTexts (palette : Palette) (shown : Step × List Notice)
    {text : String} (h : text ∈ stepTexts palette shown) :
    ¬Report.failureMark palette <+: text.toList := by
  rcases List.mem_cons.mp h with rfl | h
  · exact Report.not_failureMark_prefix_heading palette shown.1
  · obtain ⟨notice, -, rfl⟩ := List.mem_map.mp h
    cases houtput : notice.output palette with
    | print text =>
      have hblock : notice.block palette = text := by
        simp [Notice.block, Output.printed, houtput]
      rw [hblock]
      exact notice.not_failureMark_prefix_output palette houtput
    | log entry =>
      rw [Notice.block, houtput]
      cases palette <;> simp [Output.printed, Report.failureMark]

namespace Command

/-- Whether a command looks at the table. -/
def needsTable : Command → Bool
  | .devices => false
  | _ => true

/-- Whether a command looks at the root of a server. -/
def needsBase : Command → Bool
  | .run _ | .preview _ | .devices => true
  | .list _ | .check => false

/-- The test case that a command expands. -/
def testCase? : Command → Option String
  | .run id | .preview id => some id
  | _ => none

/-- The failure of a check. -/
def problemCount (table : Table) : Error :=
  .tableParse (String.ofList (Decimal.ofNat table.validate.length) ++ " problem(s) in table '" ++
    table.name ++ "'")

/-- Why a command is refused: its table cannot be loaded, its server's root cannot be used, the
chain of its test case comes back to an entry, or the table that it checks has problems. -/
inductive Refused (files : FileView) (settings : Settings) (command : Command) : Error → Prop
  | table {e : Error} (needed : command.needsTable)
      (unloaded : settings.loadTable files = .error e) : Refused files settings command e
  | base {e : Error} (needed : command.needsBase)
      (loaded : command.needsTable → ∃ table, settings.loadTable files = .ok table)
      (unusable : BaseUrl.parse settings.baseUrl = .error e) : Refused files settings command e
  | chain {id x reason : String} {table : Table} {base : BaseUrl}
      (expands : command.testCase? = some id) (loaded : settings.loadTable files = .ok table)
      (usable : BaseUrl.parse settings.baseUrl = .ok base)
      (endless : table.chain id = .error (.invalidDescriptor x reason)) :
      Refused files settings command (.invalidDescriptor x reason)
  | problems {table : Table} (checks : command = .check)
      (loaded : settings.loadTable files = .ok table) (found : table.validate ≠ []) :
      Refused files settings command (problemCount table)

/-- The failure that stops a command which has what it needs: its test case is not in the table, the
execution of a step fails, or the server gives no list of clients. -/
inductive Stopped (files : FileView) (settings : Settings) (outcomes : List Outcome)
    (command : Command) : Error → Prop
  | unknown {id x : String} {table : Table} {base : BaseUrl}
      (expands : command.testCase? = some id) (loaded : settings.loadTable files = .ok table)
      (usable : BaseUrl.parse settings.baseUrl = .ok base)
      (unknown : table.chain id = .error (.unknownTestCase x)) :
      Stopped files settings outcomes command (.unknownTestCase x)
  | interrupted {id : String} {table : Table} {base : BaseUrl} {steps : List Step} {e : Error}
      (runs : command = .run id) (loaded : settings.loadTable files = .ok table)
      (usable : BaseUrl.parse settings.baseUrl = .ok base) (chain : table.chain id = .ok steps)
      (interrupted : Interrupted base steps outcomes e) :
      Stopped files settings outcomes command e
  | unlisted {base : BaseUrl} {e : Error} (lists : command = .devices)
      (usable : BaseUrl.parse settings.baseUrl = .ok base)
      (failed : (base.listClients.play outcomes).value = .error e) :
      Stopped files settings outcomes command e

/-! ### What a command needs -/

section

variable {files : FileView} {settings : Settings} {table : Table} {base : BaseUrl} {e : Error}

theorem isStartup_of_loadTable (h : settings.loadTable files = .error e) : e.isStartup := by
  rw [Settings.loadTable] at h
  split at h
  · rcases bind_eq_error_iff.mp h with h | ⟨text, -, h⟩
    · obtain ⟨problem, -, rfl⟩ := mapError_eq_error_iff.mp h
      rfl
    · obtain ⟨fault, -, rfl⟩ := mapError_eq_error_iff.mp h
      rfl
  · cases h

theorem isStartup_of_parse {text : String} (h : BaseUrl.parse text = .error e) : e.isStartup := by
  obtain ⟨problem, -, rfl⟩ := mapError_eq_error_iff.mp h
  rfl

theorem play_checkTable (palette : Palette) (table : Table) (outcomes : List Outcome) :
    ((checkTable palette table).play outcomes).value =
        (if table.validate = [] then .ok () else .error (problemCount table)) ∧
      ((checkTable palette table).play outcomes).exchanges = [] := by
  cases hproblems : table.validate with
  | nil => simp [checkTable, hproblems, play_printAll, Session.Moment.exchange?]
  | cons problem problems =>
    simp [checkTable, hproblems, problemCount, Session.play_bind, play_printAll, Played.after,
      Session.Moment.exchange?]

/-- With its table a command goes on behind an entry in the log. -/
theorem withTable_eq (loaded : settings.loadTable files = .ok table)
    (next : Table → CommandSession) :
    ∃ entry, withTable files settings next = .tell (.log entry) (next table) := by
  rw [withTable, loaded]
  exact ⟨_, rfl⟩

/-- Without a chain both commands that expand one end in the same way. -/
theorem session_eq_reportFailure {command : Command} {id : String}
    (expands : command.testCase? = some id) (loaded : settings.loadTable files = .ok table)
    (usable : BaseUrl.parse settings.baseUrl = .ok base) (failed : table.chain id = .error e)
    (palette : Palette) :
    ∃ entry, command.session palette files settings =
      .tell (.log entry) (reportFailure palette e) := by
  cases command with
  | run _ | preview _ =>
    obtain rfl := Option.some.inj expands
    simp only [session, withTable, withResult, loaded, usable, runTestCase, failed]
    exact ⟨_, rfl⟩
  | _ => cases expands

/-! ### Refusals -/

theorem Refused.play {command : Command} (refused : command.Refused files settings e)
    (palette : Palette) (outcomes : List Outcome) :
    let ran := (command.session palette files settings).play outcomes
    ran.value = .error e ∧ ran.exchanges = [] ∧ e.isStartup := by
  intro ran
  cases refused with
  | table needed unloaded =>
    have hran : ran = ⟨[], outcomes, .error e⟩ := by
      cases command with
      | devices => cases needed
      | _ =>
        simp only [ran, session, withTable, withResult, unloaded]
        rfl
    rw [hran]
    exact ⟨rfl, rfl, isStartup_of_loadTable unloaded⟩
  | base needed loaded unusable =>
    -- The table comes first where one is needed, so it has been loaded.
    have hran : ran.value = .error e ∧ ran.exchanges = [] := by
      cases command with
      | list _ | check => cases needed
      | devices =>
        simp only [ran, session, withResult, unusable]
        exact ⟨rfl, rfl⟩
      | run _ | preview _ =>
        obtain ⟨table, loaded⟩ := loaded rfl
        simp only [ran, session, withTable, withResult, loaded, unusable]
        exact ⟨rfl, rfl⟩
    exact ⟨hran.1, hran.2, isStartup_of_parse unusable⟩
  | @chain id x reason _ _ expands loaded usable endless =>
    obtain ⟨entry, hsession⟩ := session_eq_reportFailure expands loaded usable endless palette
    simp only [ran, hsession]
    exact ⟨rfl, rfl, rfl⟩
  | @problems table checks loaded found =>
    subst checks
    obtain ⟨entry, hsession⟩ := withTable_eq loaded (checkTable palette)
    obtain ⟨hvalue, hexchanges⟩ := play_checkTable palette table outcomes
    rw [if_neg found] at hvalue
    simp only [ran, session, hsession]
    exact ⟨hvalue, hexchanges, rfl⟩

/-! ### Failures that are reported -/

/-- Asking for the clients is one exchange, and only the log is told of it. -/
theorem play_listClients (base : BaseUrl) (outcomes : List Outcome) :
    ∃ outcome unused, base.listClients.play outcomes =
      ⟨Phase.discovery.moments base.discoveryRequest outcome, unused,
        match outcome with
        | .ok reply => reply.parseClients.mapError ResolutionFailure.toError
        | .error detail => .error (.network detail)⟩ := by
  rw [BaseUrl.listClients, Session.play_andThen]
  rcases hdraw : draw outcomes with ⟨outcome, unused⟩
  refine ⟨outcome, unused, ?_⟩
  cases outcome with
  | error detail => simp [Phase.play_send_error _ _ hdraw, Played.after]
  | ok reply => simp [Phase.play_send_ok _ _ hdraw, Played.after]

theorem play_devices (files : FileView) (usable : BaseUrl.parse settings.baseUrl = .ok base)
    (palette : Palette) (outcomes : List Outcome) :
    let ran := (devices.session palette files settings).play outcomes
    ran.value = .ok () ∧
      ∀ e, (base.listClients.play outcomes).value = .error e →
        e.endsTestCase ∧ ran.texts = [Report.diagnostic palette e] := by
  intro ran
  obtain ⟨outcome, unused, hlist⟩ := play_listClients base outcomes
  simp only [ran, session, withResult, usable, Session.play_bind, Session.play_retell, hlist]
  cases outcome with
  | error detail =>
    refine ⟨rfl, ?_⟩
    rintro e ⟨⟩
    exact ⟨rfl, rfl⟩
  | ok reply =>
    cases hparse : reply.parseClients with
    | ok clients =>
      simp only [Except.mapError, hparse]
      refine ⟨rfl, ?_⟩
      rintro e ⟨⟩
    | error failure =>
      simp only [Except.mapError, hparse]
      refine ⟨rfl, ?_⟩
      rintro e ⟨⟩
      exact ⟨rfl, rfl⟩

/-- A command that expands a test case is refused for its chain or ends well. -/
theorem exists_refused_or_value_of_expands {command : Command} {id : String}
    (expands : command.testCase? = some id) (loaded : settings.loadTable files = .ok table)
    (usable : BaseUrl.parse settings.baseUrl = .ok base) (palette : Palette)
    (outcomes : List Outcome) :
    (∃ e, command.Refused files settings e) ∨
      ((command.session palette files settings).play outcomes).value = .ok () := by
  cases hchain : table.chain id with
  | error e =>
    rcases Table.eq_of_chain_eq_error hchain with ⟨x, rfl⟩ | ⟨x, rfl⟩
    · obtain ⟨entry, hsession⟩ := session_eq_reportFailure expands loaded usable hchain palette
      rw [hsession]
      exact .inr rfl
    · exact .inl ⟨_, .chain expands loaded usable hchain⟩
  | ok steps =>
    obtain ⟨entry, hpreview, hrun⟩ :=
      @session_of_table_of_base palette files settings table base loaded usable id
    right
    cases command with
    | run _ =>
      obtain rfl := Option.some.inj expands
      obtain ⟨_, _, narrated⟩ := exists_narrated_runSteps palette base steps outcomes
      rw [hrun, runTestCase, hchain]
      exact narrated.value
    | preview _ =>
      obtain rfl := Option.some.inj expands
      rw [hpreview, previewTestCase, hchain, Session.play_tell, play_printAll]
      rfl
    | _ => cases expands

/-- A command that is not refused ends well. -/
theorem exists_refused_or_value_eq_ok (command : Command) (palette : Palette)
    (outcomes : List Outcome) :
    (∃ e, command.Refused files settings e) ∨
      ((command.session palette files settings).play outcomes).value = .ok () := by
  cases hneeds : command.needsTable with
  | false =>
    -- Only the list of clients can be had without the table.
    cases command with
    | devices =>
      cases husable : BaseUrl.parse settings.baseUrl with
      | error e => exact .inl ⟨e, .base rfl nofun husable⟩
      | ok base => exact .inr (play_devices files husable palette outcomes).1
    | _ => cases hneeds
  | true =>
    cases hloaded : settings.loadTable files with
    | error e => exact .inl ⟨e, .table hneeds hloaded⟩
    | ok table =>
      cases command with
      | list start =>
        obtain ⟨entry, hsession⟩ := withTable_eq hloaded fun table => printAll (listed table start)
        rw [session, hsession, Session.play_tell, play_printAll]
        exact .inr rfl
      | check =>
        obtain ⟨entry, hsession⟩ := withTable_eq hloaded (checkTable palette)
        by_cases hvalid : table.validate = []
        · right
          rw [session, hsession, Session.play_tell, Played.after_value,
            (play_checkTable palette table outcomes).1, if_pos hvalid]
        · exact .inl ⟨_, .problems rfl hloaded hvalid⟩
      | run id | preview id =>
        cases husable : BaseUrl.parse settings.baseUrl with
        | error e => exact .inl ⟨e, .base rfl (fun _ => ⟨table, hloaded⟩) husable⟩
        | ok base => exact exists_refused_or_value_of_expands rfl hloaded husable palette outcomes
      | devices => cases hneeds

theorem value_eq_error_iff (command : Command) (palette : Palette) (outcomes : List Outcome) :
    ((command.session palette files settings).play outcomes).value = .error e ↔
      command.Refused files settings e := by
  constructor
  · intro h
    rcases exists_refused_or_value_eq_ok command palette outcomes with ⟨e', refused⟩ | hok
    · obtain rfl := Except.error.inj ((refused.play palette outcomes).1.symm.trans h)
      exact refused
    · cases hok.symm.trans h
  · exact fun refused => (refused.play palette outcomes).1

theorem Stopped.play {command : Command} {outcomes : List Outcome}
    (stopped : command.Stopped files settings outcomes e) (palette : Palette) :
    let ran := (command.session palette files settings).play outcomes
    e.endsTestCase ∧ ran.value = .ok () ∧
      ∃ before, ran.texts = before ++ [Report.diagnostic palette e] ∧
        ∀ text ∈ before, ¬Report.failureMark palette <+: text.toList := by
  intro ran
  cases stopped with
  | unknown expands loaded usable unknown =>
    obtain ⟨entry, hsession⟩ := session_eq_reportFailure expands loaded usable unknown palette
    simp only [ran, hsession]
    exact ⟨rfl, rfl, [], rfl, nofun⟩
  | @interrupted id table base steps _ runs loaded usable chain interrupted =>
    subst runs
    obtain ⟨entry, -, hrun⟩ :=
      @session_of_table_of_base palette files settings table base loaded usable id
    obtain ⟨shown, failure, narrated⟩ := exists_narrated_runSteps palette base steps outcomes
    -- The failure of the transcript is this one, and it stands behind the texts of the steps.
    obtain rfl := (narrated.interrupted e).mpr interrupted
    have hran : ran = ((runSteps palette base steps).play outcomes).after
        [.told (.log entry)] := by
      simp only [ran, hrun, runTestCase, chain, Session.play_tell]
    refine ⟨interrupted.endsTestCase, ?_, shown.flatMap (stepTexts palette), ?_, ?_⟩
    · rw [hran]
      exact narrated.value
    · rw [hran]
      exact narrated.texts
    · intro text htext
      obtain ⟨step, -, htext⟩ := List.mem_flatMap.mp htext
      exact not_failureMark_prefix_stepTexts palette step htext
  | unlisted lists usable failed =>
    subst lists
    obtain ⟨hvalue, hfailed⟩ := play_devices files usable palette outcomes
    obtain ⟨hends, htexts⟩ := hfailed e failed
    exact ⟨hends, hvalue, [], htexts, nofun⟩

theorem check_value_eq_ok_iff (palette : Palette) (outcomes : List Outcome) :
    ((check.session palette files settings).play outcomes).value = .ok () ↔
      ∃ table, settings.loadTable files = .ok table ∧ table.validate = [] := by
  cases hloaded : settings.loadTable files with
  | error e =>
    have refused : check.Refused files settings e := .table rfl hloaded
    simp [(refused.play palette outcomes).1]
  | ok table =>
    obtain ⟨entry, hsession⟩ := withTable_eq hloaded (checkTable palette)
    have hvalue := (play_checkTable palette table outcomes).1
    rw [session, hsession, Session.play_tell, Played.after_value, hvalue]
    by_cases hvalid : table.validate = [] <;> simp [hvalid]

end

end Command

/-! ### The program -/

namespace CommandLine.Request

/-- What happens when the program is started: the command that it is asked for is played, and a
request for anything else has nothing to do with the server. -/
def play (files : FileView) (defaultFile : Option String) (palette : Palette)
    (outcomes : List Outcome) : Request → Played Output (Except Error Unit)
  | .command options asked =>
    (CommandLine.session files defaultFile palette options asked).play outcomes
  | _ => ⟨[], outcomes, .ok ()⟩

/-- Why the program fails: a command is asked for, and its settings cannot be resolved or it is
refused with them. -/
inductive Unstartable (files : FileView) (defaultFile : Option String) : Request → Prop
  | settings {options : Options} {command : Command} {e : Error}
      (unresolved : Settings.resolve files defaultFile options.overrides = .error e) :
      Unstartable files defaultFile (.command options command)
  | command {options : Options} {command : Command} {settings : Settings} {e : Error}
      (resolved : Settings.resolve files defaultFile options.overrides = .ok settings)
      (refused : command.Refused files settings e) :
      Unstartable files defaultFile (.command options command)

variable {files : FileView} {defaultFile : Option String} {palette : Palette}
  {outcomes : List Outcome} {request : Request}

theorem exitCode_eq_one_iff {result : Except Error Unit} :
    request.exitCode result = 1 ↔
      ∃ options asked e, request = .command options asked ∧ result = .error e := by
  cases request <;> cases result <;> simp [exitCode]

theorem Unstartable.play (unstartable : request.Unstartable files defaultFile)
    (palette : Palette) (outcomes : List Outcome) :
    ∃ e, (request.play files defaultFile palette outcomes).value = .error e ∧
      (request.play files defaultFile palette outcomes).exchanges = [] := by
  cases unstartable with
  | @settings options asked e unresolved =>
    rw [Request.play, session, unresolved, Command.withResult]
    exact ⟨e, rfl, rfl⟩
  | @command options asked settings e resolved refused =>
    rw [Request.play, session, resolved, Command.withResult]
    exact ⟨e, (refused.play palette outcomes).1, (refused.play palette outcomes).2.1⟩

theorem unstartable_of_value {e : Error}
    (h : (request.play files defaultFile palette outcomes).value = .error e) :
    request.Unstartable files defaultFile := by
  cases request with
  | command options asked =>
    cases hresolved : Settings.resolve files defaultFile options.overrides with
    | error e' => exact .settings hresolved
    | ok settings =>
      rw [Request.play, session, hresolved, Command.withResult] at h
      exact .command hresolved ((Command.value_eq_error_iff asked palette outcomes).mp h)
  | _ => cases h

/-- The program fails exactly when it cannot start. -/
theorem exitCode_play_eq_one_iff :
    request.exitCode (request.play files defaultFile palette outcomes).value = 1 ↔
      request.Unstartable files defaultFile := by
  constructor
  · intro h
    obtain ⟨_, _, e, -, hvalue⟩ := exitCode_eq_one_iff.mp h
    exact unstartable_of_value hvalue
  · intro unstartable
    obtain ⟨e, hvalue, -⟩ := unstartable.play palette outcomes
    rw [hvalue]
    cases unstartable <;> rfl

end CommandLine.Request

/-- A command fails exactly when it is refused, before anything is sent and with a failure of its
start.  A failure that stops a command later is the last thing that it prints, the only text with the
mark of a failure at its start, and the command ends well.  So the program exits with 1 exactly when
it cannot start, and then it has sent nothing. -/
theorem command_endings (files : FileView) (palette : Palette) (outcomes : List Outcome) :
    (∀ (settings : Settings) (command : Command),
      let ran := (command.session palette files settings).play outcomes
      (∀ e, ran.value = .error e → ran.sent = [] ∧ e.isStartup) ∧
      (∀ e, ran.value = .error e ↔ command.Refused files settings e) ∧
      (∀ e, command.Stopped files settings outcomes e →
        e.endsTestCase ∧ ran.value = .ok () ∧
          ∃ before, ran.texts = before ++ [Report.diagnostic palette e] ∧
            Report.failureMark palette <+: (Report.diagnostic palette e).toList ∧
            ∀ text ∈ before, ¬Report.failureMark palette <+: text.toList) ∧
      (command = .check → (ran.value = .ok () ↔
        ∃ table, settings.loadTable files = .ok table ∧ table.validate = []))) ∧
    ∀ (arguments : List String) (defaultFile : Option String),
      let request := CommandLine.read arguments
      let started := request.play files defaultFile palette outcomes
      (request.exitCode started.value = 1 ↔ request.Unstartable files defaultFile) ∧
      (request.exitCode started.value = 1 → started.sent = []) := by
  refine ⟨fun settings command => ?_, fun arguments defaultFile => ?_⟩
  · intro ran
    have hrefused (e : Error) : ran.value = .error e ↔ command.Refused files settings e :=
      Command.value_eq_error_iff command palette outcomes
    refine ⟨fun e h => ?_, hrefused, fun e stopped => ?_, ?_⟩
    · obtain ⟨-, hexchanges, hstartup⟩ := ((hrefused e).mp h).play palette outcomes
      refine ⟨?_, hstartup⟩
      rw [Played.sent_eq, hexchanges]
      rfl
    · obtain ⟨hends, hvalue, before, htexts, hbefore⟩ := stopped.play palette
      exact ⟨hends, hvalue, before, htexts, Report.failureMark_prefix_diagnostic palette e, hbefore⟩
    · rintro rfl
      exact Command.check_value_eq_ok_iff palette outcomes
  · intro request started
    refine ⟨CommandLine.Request.exitCode_play_eq_one_iff, fun h => ?_⟩
    have unstartable := CommandLine.Request.exitCode_play_eq_one_iff.mp h
    obtain ⟨e, -, hexchanges⟩ := unstartable.play palette outcomes
    rw [Played.sent_eq, hexchanges]
    rfl

end Stimulus
