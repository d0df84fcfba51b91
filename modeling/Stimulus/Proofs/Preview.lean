import Stimulus.Command
import Stimulus.Proofs.Report
import Stimulus.Proofs.Run.Traffic
import Stimulus.Proofs.Url.Operation

/-! What a preview says about a run.  The blocks of a preview are those of the steps that a run
attempts, in their order, and a block predicts the request of its step: its method, its URL behind
the endpoint that is not known yet, and whether it carries a body. -/

namespace Stimulus

open Session (Played)
open Url.Path (Clean Plain)
open Url.Percent (encode inSegment)

/-- What the block of an entry shows of its request. -/
structure Preview where
  method : Method
  url : String
  /-- The lines of the payload. -/
  payload : String

namespace Preview

/-- The preview of the request of an entry. -/
def ofStep (palette : Palette) (base : BaseUrl) (step : Step) : Preview where
  method := step.2.method
  url := base.template step.2
  payload := Report.payload palette step.2

/-- The block of an entry. -/
def text (palette : Palette) (step : Step) (preview : Preview) : String :=
  Report.line (palette.paint .heading step.1) ++
    (match step.2.description with
      | some text => Report.line ("  " ++ palette.paint .aside text)
      | none => "") ++
    Report.line ("  Method:  " ++ preview.method.name) ++
    Report.line ("  Path:    " ++ step.2.path) ++
    Report.line ("  Format:  " ++ step.2.format.name) ++
    Report.line ("  URL:     " ++ preview.url) ++
    preview.payload ++
    match step.2.next with
    | some next => Report.line ("  Then:    " ++ next)
    | none => ""

theorem entry_eq_text (palette : Palette) (base : BaseUrl) (step : Step) :
    Report.entry palette step (base.template step.2) =
      (ofStep palette base step).text palette step := rfl

/-- A request is the one that a preview announces: it has the method of the preview, it carries a
body exactly when a payload is shown without a warning, and its URL differs from the one that is
shown in nothing but the endpoint. -/
structure Predicts (base : BaseUrl) (preview : Preview) (step : Step) (endpoint : String)
    (request : Request) : Prop where
  method : request.method = preview.method
  body : request.body.isSome ↔ ∃ payload, preview.payload = Report.sentPayload payload
  url : Clean step.2.path.toList → Plain endpoint.toList →
    ∀ rest, preview.url = base.clients.text ++ "/" ++ BaseUrl.placeholder ++ rest →
      request.url =
        base.clients.text ++ "/" ++ String.ofList (encode inSegment endpoint.toList) ++ rest

theorem predicts_operationRequest (palette : Palette) (base : BaseUrl) (step : Step)
    (endpoint : String) :
    (ofStep palette base step).Predicts base step endpoint
      (base.operationRequest endpoint step.2) where
  method := rfl
  body := (Report.exists_payload_eq_sentPayload_iff palette step.2).symm
  url := by
    intro hpath hendpoint rest hurl
    -- Behind the placeholder stands what stands behind any other endpoint.
    have hrest : String.ofList step.2.tail = rest := by
      rw [ofStep, BaseUrl.template_eq hpath] at hurl
      simpa [String.append_assoc] using hurl
    apply String.toList_inj.mp
    simp [BaseUrl.operationRequest, Url.text, BaseUrl.operation_chars hendpoint hpath, ← hrest]

end Preview

/-! ### The commands -/

/-- The preview of a test case. -/
def previewTestCase (palette : Palette) (base : BaseUrl) (table : Table) (id : String) :
    CommandSession :=
  match table.chain id with
  | .ok steps => Command.printAll (Command.previews palette base steps)
  | .error e => reportFailure palette e

theorem play_printAll (texts : List String) (outcomes : List Outcome) :
    (Command.printAll texts).play outcomes =
      ⟨texts.map fun text => .told (.print text), outcomes, .ok ()⟩ := by
  simp [Command.printAll, Session.play_bind, Session.play_sayAll, Played.after]

theorem printed_print (texts : List String) :
    Output.printed (texts.map .print) = String.join texts := by
  simp [Output.printed, Function.comp_def]

theorem events_map_told (outputs : List Output) (unused : List Outcome)
    (value : Except Error Unit) :
    (Played.mk (outputs.map .told) unused value).events = outputs := by
  simp [Played.events, List.filterMap_map]

/-- Everything that is printed of a preview: its blocks, an empty line between two of them. -/
theorem play_previews (palette : Palette) (base : BaseUrl) (steps : List Step)
    (outcomes : List Outcome) :
    let shown := (Command.printAll (Command.previews palette base steps)).play outcomes
    shown.value = .ok () ∧ shown.exchanges = [] ∧
      Output.printed shown.events = String.join ((steps.map fun step =>
        (Preview.ofStep palette base step).text palette step).intersperse "\n") := by
  intro shown
  have hshown : shown = ⟨((Command.previews palette base steps).map .print).map .told, outcomes,
      .ok ()⟩ := by
    simp [shown, play_printAll, Function.comp_def]
  refine ⟨by rw [hshown], ?_, ?_⟩
  · rw [hshown]
    simp [Session.Moment.exchange?]
  · rw [hshown, events_map_told, printed_print, Command.previews]
    simp only [Preview.entry_eq_text]

/-- What a command without a chain leaves: the diagnostic of a failure that ends the test case, or
the failure itself. -/
theorem printed_reportFailure (palette : Palette) (e : Error) (outcomes : List Outcome) :
    let failed := (reportFailure palette e).play outcomes
    if e.endsTestCase then
      failed.value = .ok () ∧ Output.printed failed.events = Report.diagnostic palette e
    else failed.value = .error e ∧ Output.printed failed.events = "" := by
  intro failed
  have hfailed := play_reportFailure palette e outcomes
  split
  · rw [if_pos ‹_›] at hfailed
    simp [failed, hfailed, Played.events, Output.printed, Output.note]
  · rw [if_neg ‹_›] at hfailed
    simp [failed, hfailed, Played.events, Output.printed]

/-- With a table and a root, the commands do what is said here of a preview and of a run, behind
one entry in the log. -/
theorem session_of_table_of_base {palette : Palette} {files : FileView} {settings : Settings}
    {table : Table} {base : BaseUrl} (htable : settings.loadTable files = .ok table)
    (hbase : BaseUrl.parse settings.baseUrl = .ok base) (id : String) :
    ∃ entry, Command.session palette files settings (.preview id) =
        .tell (.log entry) (previewTestCase palette base table id) ∧
      Command.session palette files settings (.run id) =
        .tell (.log entry) (runTestCase palette base table id) := by
  simp only [Command.session, Command.withTable, htable, hbase, Command.withResult]
  exact ⟨_, rfl, rfl⟩

/-- A preview predicts the run of the same test case.  Without a chain both commands end alike and
send nothing.  With one, the preview prints a block for each step of the chain, in the order in
which a run attempts them.  Behind the list of clients the URL in a block has the placeholder and a
rest, and a run, whatever the server replies, sends for a step only what its block announces. -/
theorem preview_predicts_run (palette : Palette) (base : BaseUrl) (table : Table) (id : String)
    (outcomes outcomes' : List Outcome) :
    let shown := (previewTestCase palette base table id).play outcomes
    let ran := (runTestCase palette base table id).play outcomes'
    (∀ files settings, settings.loadTable files = .ok table →
      BaseUrl.parse settings.baseUrl = .ok base →
        ∃ entry, Command.session palette files settings (.preview id) =
            .tell (.log entry) (previewTestCase palette base table id) ∧
          Command.session palette files settings (.run id) =
            .tell (.log entry) (runTestCase palette base table id)) ∧
    shown.exchanges = [] ∧
    match table.chain id with
    | .error e =>
      ran.exchanges = [] ∧ shown.value = ran.value ∧
      Output.printed shown.events = Output.printed ran.events ∧
      if e.endsTestCase then
        shown.value = .ok () ∧ Output.printed shown.events = Report.diagnostic palette e
      else shown.value = .error e ∧ Output.printed shown.events = ""
    | .ok steps =>
      shown.value = .ok () ∧
      Output.printed shown.events = String.join ((steps.map fun step =>
        (Preview.ofStep palette base step).text palette step).intersperse "\n") ∧
      (∀ step ∈ steps, Clean step.2.path.toList → ∃ rest,
        (Preview.ofStep palette base step).url =
          base.clients.text ++ "/" ++ BaseUrl.placeholder ++ rest) ∧
      Traffic ⟨.get, base.clients.text, none⟩
        (fun step endpoint request =>
          (Preview.ofStep palette base step).Predicts base step endpoint request)
        steps ran.exchanges := by
  intro shown ran
  refine ⟨fun files settings htable hbase => session_of_table_of_base htable hbase id, ?_⟩
  have hran := exchanges_runTestCase palette base table id outcomes'
  cases hchain : table.chain id with
  | error e =>
    have hshown : shown = (reportFailure palette e).play outcomes := by
      simp only [shown, previewTestCase, hchain]
    have hfailed : ran = (reportFailure palette e).play outcomes' := by
      simp only [ran, runTestCase, hchain]
    rw [hshown, hfailed]
    refine ⟨exchanges_reportFailure .., exchanges_reportFailure .., ?_, ?_,
      printed_reportFailure palette e outcomes⟩
    · rw [play_reportFailure, play_reportFailure]
      split <;> rfl
    · rw [play_reportFailure, play_reportFailure]
      split <;> rfl
  | ok steps =>
    have hshown :
        shown = (Command.printAll (Command.previews palette base steps)).play outcomes := by
      simp only [shown, previewTestCase, hchain]
    obtain ⟨hvalue, hexchanges, hprinted⟩ := play_previews palette base steps outcomes
    rw [hchain] at hran
    rw [hshown]
    refine ⟨hexchanges, hvalue, hprinted, fun step _ hpath => ⟨_, BaseUrl.template_eq hpath⟩, ?_⟩
    simp only [ran, hran]
    refine (traffic_runSteps palette base steps outcomes').mono ?_
    rintro step - endpoint request rfl
    exact Preview.predicts_operationRequest palette base step endpoint

end Stimulus
