import Stimulus.Proofs.Command
import Stimulus.Proofs.Palette.Report
import Stimulus.Proofs.Palette.Sessions
import Stimulus.Proofs.Preview.Payload

/-! What colours change.  A command with colours has the same result and sends the same requests as
the command without, and prints its text with terminal sequences in it.  Texts are printed as they
are read, so a text with an escape is in both transcripts; where there is none, taking the sequences
out of the coloured transcript leaves the plain one. -/

namespace Stimulus

open Palette (Clear Painted)
open Session (Keeps)

/-! ### Commands without an escape -/

/-- A command whose plain transcript has no escape if the outcomes of its requests have none. -/
def ClearCommand (session : CommandSession) : Prop :=
  Keeps Outcome.IsClear Output.IsClear (fun _ => True) session

theorem clear_reportFailure {e : Error} (h : e.IsClear) : ClearCommand (reportFailure .plain e) := by
  unfold reportFailure
  split
  · exact .tell trivial (.tell (Report.clear_diagnostic h) (.done trivial))
  · exact .done trivial

/-- A session that becomes part of a transcript. -/
theorem ClearSession.transcribed {α : Type} {ends : α → Prop}
    {session : Session Notice (Except Error α)} (h : ClearSession ends session) :
    Keeps Outcome.IsClear Output.IsClear (Ends ends Error.IsClear)
      (session.retell fun notice => [notice.output .plain]) :=
  Keeps.retell h fun _ hnotice => List.forall_mem_singleton.mpr hnotice

theorem clear_runSteps {base : BaseUrl} (hbase : base.url.Legible) {steps : List Step}
    (h : ∀ step ∈ steps, Step.IsClear step) : ClearCommand (runSteps .plain base steps) := by
  induction steps with
  | nil => exact .done trivial
  | cons step rest ih =>
    obtain ⟨hstep, hrest⟩ := List.forall_mem_cons.mp h
    refine .tell (Report.clear_heading hstep) ?_
    refine (BaseUrl.clear_execute hbase step.2).transcribed.bind ?_
    rintro (e | exchange) hresult
    · exact clear_reportFailure hresult
    · exact ih hrest

namespace Command

theorem clear_printAll {texts : List String} (h : ∀ text ∈ texts, Clear text) :
    ClearCommand (printAll texts) := by
  refine (Keeps.sayAll fun output houtput => ?_).bind fun _ _ => .done trivial
  obtain ⟨text, htext, rfl⟩ := List.mem_map.mp houtput
  exact h text htext

theorem mem_intersperse {α : Type} {separator item : α} {items : List α}
    (h : item ∈ items.intersperse separator) : item = separator ∨ item ∈ items := by
  induction items with
  | nil => cases h
  | cons first rest ih =>
    cases rest with
    | nil => exact .inr h
    | cons second rest =>
      rw [List.intersperse_cons_cons, List.mem_cons, List.mem_cons] at h
      rcases h with rfl | rfl | h
      · exact .inr (.head _)
      · exact .inl rfl
      · exact (ih h).imp_right (.tail _)

theorem clear_of_mem_previews {base : BaseUrl} (hbase : base.url.Legible) {steps : List Step}
    (h : ∀ step ∈ steps, Step.IsClear step) {text : String}
    (htext : text ∈ previews .plain base steps) : Clear text := by
  rcases mem_intersperse htext with rfl | htext
  · decide
  · obtain ⟨step, hstep, rfl⟩ := List.mem_map.mp htext
    exact Report.clear_entry (h step hstep) (BaseUrl.clear_template hbase step.2)

theorem clear_of_mem_listed {table : Table} (h : table.IsClear) {start : Option String}
    {text : String} (htext : text ∈ listed table start) : Clear text := by
  unfold listed at htext
  split at htext
  · rw [List.mem_singleton.mp htext]
    decide
  · obtain ⟨id, hid, rfl⟩ := List.mem_map.mp htext
    obtain ⟨step, hstep, rfl⟩ := List.mem_map.mp (List.mem_of_mem_filter hid)
    exact Report.clear_line.mpr (h.entries step hstep).id

theorem clear_checkTable {table : Table} (h : table.IsClear) :
    ClearCommand (checkTable .plain table) := by
  have hproblems : ∀ e ∈ table.validate, e.IsClear := fun e => Table.isClear_of_mem_validate h
  unfold checkTable
  split
  · exact clear_printAll (List.forall_mem_singleton.mpr (Report.clear_wellFormed h.name))
  · refine Keeps.bind (clear_printAll fun text htext => ?_) fun _ _ => .done trivial
    obtain ⟨e, he, rfl⟩ := List.mem_map.mp htext
    exact Report.clear_diagnostic (hproblems e he)

theorem clear_withResult {α : Type} {result : Except Error α} {next : α → CommandSession}
    (h : ∀ value, result = .ok value → ClearCommand (next value)) :
    ClearCommand (withResult result next) := by
  cases result with
  | ok value => exact h value rfl
  | error e => exact .done trivial

theorem clear_withTable {files : FileView} {settings : Settings} {next : Table → CommandSession}
    (h : ∀ table, settings.loadTable files = .ok table → ClearCommand (next table)) :
    ClearCommand (withTable files settings next) :=
  clear_withResult fun table htable => .tell trivial (h table htable)

/-- The texts that a command works with have no escape: those of the table, if it needs one, and the
identifier that it expands. -/
structure IsClear (files : FileView) (settings : Settings) (command : Command) : Prop where
  table : command.needsTable → ∀ table, settings.loadTable files = .ok table → table.IsClear
  id : ∀ id ∈ command.testCase?, Clear id

theorem clear_session {files : FileView} {settings : Settings} {command : Command}
    (h : command.IsClear files settings) :
    ClearCommand (command.session .plain files settings) := by
  cases command with
  | list start =>
    exact clear_withTable fun table htable =>
      clear_printAll fun text => clear_of_mem_listed (h.table rfl table htable)
  | check => exact clear_withTable fun table htable => clear_checkTable (h.table rfl table htable)
  | run id =>
    refine clear_withTable fun table htable => clear_withResult fun base hbase => ?_
    have hchain := Table.endsClear_chain (h.table rfl table htable) (h.id id rfl)
    unfold runTestCase
    cases hsteps : table.chain id with
    | ok steps =>
      rw [hsteps] at hchain
      exact clear_runSteps (BaseUrl.legible_of_parse hbase) hchain
    | error e =>
      rw [hsteps] at hchain
      exact clear_reportFailure hchain
  | preview id =>
    refine clear_withTable fun table htable => clear_withResult fun base hbase => ?_
    have hchain := Table.endsClear_chain (h.table rfl table htable) (h.id id rfl)
    cases hsteps : table.chain id with
    | ok steps =>
      rw [hsteps] at hchain
      exact clear_printAll fun text =>
        clear_of_mem_previews (BaseUrl.legible_of_parse hbase) hchain
    | error e =>
      rw [hsteps] at hchain
      exact clear_reportFailure hchain
  | devices =>
    refine clear_withResult fun base _ => (BaseUrl.clear_listClients base).transcribed.bind ?_
    rintro (e | clients) hresult
    · exact clear_reportFailure hresult
    · exact clear_printAll (List.forall_mem_singleton.mpr (Report.clear_clients hresult))

end Command

/-! ### Transcripts -/

theorem Output.clear_printed {outputs : List Output} (h : ∀ output ∈ outputs, output.IsClear) :
    Clear (Output.printed outputs) := by
  refine Palette.clear_join fun text htext => ?_
  obtain ⟨output, houtput, rfl⟩ := List.mem_map.mp htext
  cases output with
  | print text => exact h _ houtput
  | log entry => exact show Clear "" by decide

/-- Colours are only decoration.  A command has the same result, sends the same requests and logs
the same entries with colours and without, and what it prints with colours is what it prints without,
with complete terminal sequences in between.  If no text that it works with and no reply has an
escape, neither as written nor in a string that is read from it, then taking the sequences out of
what it prints with colours gives exactly what it prints without. -/
theorem colours_only_decorate (files : FileView) (settings : Settings) (command : Command)
    (outcomes : List Outcome) :
    let plain := (command.session .plain files settings).play outcomes
    let coloured := (command.session .ansi files settings).play outcomes
    coloured.value = plain.value ∧ coloured.exchanges = plain.exchanges ∧
      Output.logged coloured.events = Output.logged plain.events ∧
      Painted (Output.printed plain.events).toList (Output.printed coloured.events).toList ∧
      (command.IsClear files settings → (∀ outcome ∈ outcomes, outcome.IsClear) →
        Palette.plainText (Output.printed coloured.events) = Output.printed plain.events) := by
  intro plain coloured
  obtain ⟨hvalue, hexchanges, hevents⟩ :=
    (Command.alike_session files settings command).play outcomes
  have hpainted := Output.Painted.printed hevents
  refine ⟨hvalue.symm, hexchanges.symm, (Output.Painted.logged hevents).symm, hpainted,
    fun hcommand houtcomes => hpainted.plainText_eq (Output.clear_printed ?_)⟩
  exact (Command.clear_session hcommand).play houtcomes isClear_refused

theorem colours_only_decorate_lamp :
    (Command.run "on").IsClear nestedFiles nestedSettings ∧
      (∀ outcome ∈ lamp.outcomes, outcome.IsClear) ∧
      Palette.plainText (Output.printed (((Command.run "on").session .ansi nestedFiles
          nestedSettings).play lamp.outcomes).events) =
        Output.printed (((Command.run "on").session .plain nestedFiles
          nestedSettings).play lamp.outcomes).events := by
  have hread : (nestedSettings.loadTable nestedFiles).toOption.any (fun table => table.IsClear) =
      true := by
    decide +kernel
  have hcommand : (Command.run "on").IsClear nestedFiles nestedSettings := by
    refine ⟨fun _ table htable => ?_, ?_⟩
    · rw [htable] at hread
      exact of_decide_eq_true hread
    · rintro id ⟨⟩
      decide
  have houtcomes : ∀ outcome ∈ lamp.outcomes, outcome.IsClear := by decide +kernel
  obtain ⟨-, -, -, -, hplain⟩ :=
    colours_only_decorate nestedFiles nestedSettings (.run "on") lamp.outcomes
  exact ⟨hcommand, houtcomes, hplain hcommand houtcomes⟩

end Stimulus
