import Stimulus.Proofs.Exchange.Course
import Stimulus.Proofs.Json.Compact
import Stimulus.Proofs.Run.Traffic

/-! The transcript of a run against its traffic.  `Transcript` lists the steps that a run attempts
with the messages of each, beside the requests that are handed over, and the failure that ends the
run.  What a run prints is exactly this: for each step its heading and a block for each message, and
the failure at the end. -/

namespace Stimulus

open Session (Moment Played)

/-! ### Printed texts -/

/-- The text of an output that is printed. -/
def Output.text? : Output → Option String
  | .print text => some text
  | .log _ => none

theorem Output.printed_eq_join (outputs : List Output) :
    printed outputs = String.join (outputs.filterMap text?) := by
  induction outputs with
  | nil => rfl
  | cons output outputs ih =>
    rw [printed] at ih
    cases output <;> simp [printed, text?, List.filterMap_cons, ih]

/-- The texts that are printed in a play, in order. -/
def Session.Played.texts {α : Type} (played : Played Output α) : List String :=
  played.events.filterMap Output.text?

/-- What is printed at a notice. -/
def Notice.block (palette : Palette) (notice : Notice) : String :=
  Output.printed [notice.output palette]

/-- Every message prints a block, and entries of the log print nothing. -/
theorem filterMap_text?_output (palette : Palette) (notices : List Notice) :
    (notices.map (Notice.output palette)).filterMap Output.text? =
      (notices.filter Notice.isMessage).map (Notice.block palette) := by
  induction notices with
  | nil => rfl
  | cons notice notices ih =>
    rw [List.map_cons, List.filterMap_cons, List.filter_cons, ih]
    cases notice <;>
      simp [Notice.output, Notice.isMessage, Output.text?, Notice.block, Output.printed]

theorem texts_runSteps_cons (palette : Palette) (base : BaseUrl) (step : Step) (rest : List Step)
    (outcomes : List Outcome) :
    ((runSteps palette base (step :: rest)).play outcomes).texts =
      Report.heading palette step ::
        (((base.execute step.2).play outcomes).events.filter Notice.isMessage).map
          (Notice.block palette) ++
        ((afterStep palette base rest ((base.execute step.2).play outcomes).value).play
          ((base.execute step.2).play outcomes).unused).texts := by
  rw [play_runSteps_cons, Played.texts, Played.events_after, List.filterMap_append,
    ← filterMap_text?_output, Played.events_eq ((base.execute step.2).play outcomes),
    ← Session.filterMap_event?_retell, ← transcript]
  rfl

theorem texts_reportFailure (palette : Palette) (e : Error) (outcomes : List Outcome) :
    ((reportFailure palette e).play outcomes).texts =
      if e.endsTestCase then [Report.diagnostic palette e] else [] := by
  rw [play_reportFailure]
  split <;> rfl

/-! ### Messages -/

/-- Something that passes between a run and a server. -/
inductive Message where
  | sent (request : Request)
  | received (reply : Reply)

/-- What has passed at a notice. -/
def Notice.message? : Notice → Option Message
  | .discoverySent request | .operationSent _ request => some (.sent request)
  | .discoveryReceived reply | .operationReceived reply => some (.received reply)
  | .endpointResolved _ | .log _ => none

/-- What passes with a request: the request, and its reply if there is one. -/
def messages : Request × Outcome → List Message
  | (request, .ok reply) => [.sent request, .received reply]
  | (request, .error _) => [.sent request]

namespace Course

variable {base : BaseUrl} {descriptor : Descriptor} {exchanges : List (Request × Outcome)}
  {told : List Notice} {result : Except Error Exchange}

theorem filterMap_message? (course : Course base descriptor exchanges told result) :
    told.filterMap Notice.message? = exchanges.flatMap messages := by
  cases course <;> rfl

theorem endsTestCase {e : Error} (course : Course base descriptor exchanges told (.error e)) :
    e.endsTestCase := by
  cases course <;> rfl

end Course

/-! ### Runs -/

/-- The steps that a run attempts, each with the messages of its execution, and the failure that
ends the run if there is one. -/
inductive Transcript (base : BaseUrl) :
    List Step → List (Request × Outcome) → List (Step × List Notice) → Option Error → Prop
  | finished : Transcript base [] [] [] none
  | ended {step : Step} {steps : List Step} {exchanges : List (Request × Outcome)}
      {told : List Notice} {e : Error} (course : Course base step.2 exchanges told (.error e)) :
      Transcript base (step :: steps) exchanges [(step, told)] (some e)
  | continued {step : Step} {steps : List Step} {exchanges exchanges' : List (Request × Outcome)}
      {told : List Notice} {exchange : Exchange} {shown : List (Step × List Notice)}
      {failure : Option Error} (course : Course base step.2 exchanges told (.ok exchange))
      (rest : Transcript base steps exchanges' shown failure) :
      Transcript base (step :: steps) (exchanges ++ exchanges') ((step, told) :: shown) failure

/-- The messages of a transcript are those that pass with the requests. -/
theorem Transcript.filterMap_message? {base : BaseUrl} {steps : List Step}
    {exchanges : List (Request × Outcome)} {shown : List (Step × List Notice)}
    {failure : Option Error} (transcript : Transcript base steps exchanges shown failure) :
    (shown.flatMap (·.2)).filterMap Notice.message? = exchanges.flatMap messages := by
  induction transcript with
  | finished => rfl
  | ended course => simpa using course.filterMap_message?
  | continued course _ ih => simpa [course.filterMap_message?] using ih

/-- An execution fails, behind those of the steps before it. -/
inductive Interrupted (base : BaseUrl) : List Step → List Outcome → Error → Prop
  | here {step : Step} {steps : List Step} {outcomes : List Outcome} {e : Error}
      (failed : ((base.execute step.2).play outcomes).value = .error e) :
      Interrupted base (step :: steps) outcomes e
  | later {step : Step} {steps : List Step} {outcomes : List Outcome} {e : Error}
      {exchange : Exchange} (passed : ((base.execute step.2).play outcomes).value = .ok exchange)
      (rest : Interrupted base steps ((base.execute step.2).play outcomes).unused e) :
      Interrupted base (step :: steps) outcomes e

theorem Interrupted.endsTestCase {base : BaseUrl} {steps : List Step} {outcomes : List Outcome}
    {e : Error} (interrupted : Interrupted base steps outcomes e) : e.endsTestCase := by
  induction interrupted with
  | @here step _ outcomes _ failed =>
    have course := (play_execute base step.2 outcomes).course
    rw [failed] at course
    exact course.endsTestCase
  | later _ _ ih => exact ih

section

variable {base : BaseUrl} {step : Step} {steps : List Step} {outcomes : List Outcome}

theorem interrupted_cons_of_error {e e' : Error}
    (h : ((base.execute step.2).play outcomes).value = .error e) :
    Interrupted base (step :: steps) outcomes e' ↔ e = e' := by
  constructor
  · intro interrupted
    cases interrupted with
    | here failed => exact Except.error.inj (h.symm.trans failed)
    | later passed _ => cases h.symm.trans passed
  · rintro rfl
    exact .here h

theorem interrupted_cons_of_ok {exchange : Exchange} {e : Error}
    (h : ((base.execute step.2).play outcomes).value = .ok exchange) :
    Interrupted base (step :: steps) outcomes e ↔
      Interrupted base steps ((base.execute step.2).play outcomes).unused e := by
  constructor
  · intro interrupted
    cases interrupted with
    | here failed => cases h.symm.trans failed
    | later _ rest => exact rest
  · exact fun rest => .later h rest

end

/-- The texts of a step and its messages. -/
def stepTexts (palette : Palette) (shown : Step × List Notice) : List String :=
  Report.heading palette shown.1 :: shown.2.map (Notice.block palette)

/-- What a run over the steps of a chain says. -/
structure Narrated (palette : Palette) (base : BaseUrl) (steps : List Step)
    (outcomes : List Outcome) (shown : List (Step × List Notice)) (failure : Option Error)
    (ran : Played Output (Except Error Unit)) : Prop where
  value : ran.value = .ok ()
  transcript : Transcript base steps ran.exchanges shown failure
  texts : ran.texts =
    shown.flatMap (stepTexts palette) ++ (failure.map (Report.diagnostic palette)).toList
  interrupted : ∀ e, failure = some e ↔ Interrupted base steps outcomes e

theorem exists_narrated_runSteps (palette : Palette) (base : BaseUrl) (steps : List Step)
    (outcomes : List Outcome) :
    ∃ shown failure, Narrated palette base steps outcomes shown failure
      ((runSteps palette base steps).play outcomes) := by
  induction steps generalizing outcomes with
  | nil => exact ⟨[], none, rfl, .finished, rfl, fun e => ⟨nofun, nofun⟩⟩
  | cons step rest ih =>
    have course := (play_execute base step.2 outcomes).course
    have hexchanges := exchanges_runSteps_cons palette base step rest outcomes
    have htexts := texts_runSteps_cons palette base step rest outcomes
    generalize (((base.execute step.2).play outcomes).events.filter Notice.isMessage) = told
      at course htexts
    cases hvalue : ((base.execute step.2).play outcomes).value with
    | error e =>
      -- The report of the failure is all that is left to print, and nothing more is sent.
      rw [hvalue] at course hexchanges htexts
      rw [afterStep, exchanges_reportFailure, List.append_nil] at hexchanges
      rw [afterStep, texts_reportFailure, if_pos course.endsTestCase] at htexts
      refine ⟨[(step, told)], some e, ?_, ?_, ?_, fun e' => ?_⟩
      · rw [play_runSteps_cons, hvalue, Played.after_value, afterStep, play_reportFailure,
          if_pos course.endsTestCase]
      · rw [hexchanges]
        exact .ended course
      · simpa [stepTexts] using htexts
      · rw [interrupted_cons_of_error hvalue, Option.some.injEq]
    | ok exchange =>
      -- The rest of the run goes on with the outcomes that this execution leaves.
      obtain ⟨shown, failure, narrated⟩ := ih ((base.execute step.2).play outcomes).unused
      rw [hvalue] at course hexchanges htexts
      refine ⟨(step, told) :: shown, failure, ?_, ?_, ?_, fun e' => ?_⟩
      · rw [play_runSteps_cons, hvalue, Played.after_value]
        exact narrated.value
      · rw [hexchanges]
        exact .continued course narrated.transcript
      · rw [htexts, afterStep, narrated.texts]
        simp [stepTexts]
      · rw [interrupted_cons_of_ok hvalue]
        exact narrated.interrupted e'

/-! ### Without colours -/

/-- Lines as a text. -/
def unlines (lines : List String) : String :=
  String.join (lines.map (· ++ "\n"))

theorem unlines_append (lines lines' : List String) :
    unlines (lines ++ lines') = unlines lines ++ unlines lines' := by
  simp [unlines]

theorem join_flatMap {α : Type} (f : α → List String) (items : List α) :
    String.join (items.flatMap f) = String.join (items.map fun item => String.join (f item)) := by
  induction items with
  | nil => rfl
  | cons item items ih => simp [ih]

theorem unlines_flatMap {α : Type} (f : α → List String) (items : List α) :
    unlines (items.flatMap f) = String.join (items.map fun item => unlines (f item)) := by
  simp only [unlines, List.map_flatMap, join_flatMap]

/-- The lines of a heading, the first one empty. -/
def headingLines (step : Step) : List String :=
  ["", step.1 ++ (step.2.description.map fun text => " (" ++ text ++ ")").getD ""]

/-- The lines of a request: what it is for, its method and URL, and its body if it has one. -/
def requestLines (label : String) (request : Request) : List String :=
  ["", "▶▶▶▶▶ (" ++ label ++ ")", request.method.name ++ " " ++ request.url] ++
    (request.body.map Json.text).toList

/-- The lines of a reply: its status, and its body as it came. -/
def replyLines (reply : Reply) : List String :=
  ["◀◀◀◀◀", String.ofList (Decimal.ofNat reply.status), reply.body]

/-- The lines of a message. -/
def Notice.lines : Notice → List String
  | .discoverySent request => requestLines "Find deviceID" request
  | .endpointResolved endpoint => ["DeviceID: " ++ endpoint]
  | .operationSent endpoint request => requestLines ("Send request to client " ++ endpoint) request
  | .discoveryReceived reply | .operationReceived reply => replyLines reply
  | .log _ => []

theorem heading_plain (step : Step) :
    Report.heading .plain step = unlines (headingLines step) := by
  obtain ⟨id, descriptor⟩ := step
  apply String.toList_inj.mp
  cases hd : descriptor.description <;>
    simp [Report.heading, Report.line, Palette.paint, headingLines, unlines, hd]

theorem outgoing_plain (label : String) (request : Request) :
    Report.outgoing .plain label request = unlines (requestLines label request) := by
  apply String.toList_inj.mp
  cases hbody : request.body <;>
    simp [Report.outgoing, Report.line, Palette.paint, requestLines, unlines, Request.text, hbody]

theorem incoming_plain (reply : Reply) :
    Report.incoming .plain reply = unlines (replyLines reply) := by
  apply String.toList_inj.mp
  simp [Report.incoming, Report.line, Palette.paint, replyLines, unlines]

theorem endpoint_plain (name : String) :
    Report.endpoint .plain name = unlines ["DeviceID: " ++ name] := by
  simp [Report.endpoint, Report.line, Palette.paint, unlines]

theorem diagnostic_plain (e : Error) :
    Report.diagnostic .plain e = unlines ["✗ " ++ e.message] := by
  apply String.toList_inj.mp
  simp [Report.diagnostic, Report.line, Palette.paint, unlines]

theorem Notice.block_plain (notice : Notice) : notice.block .plain = unlines notice.lines := by
  cases notice with
  | log entry => rfl
  | discoverySent request | operationSent endpoint request =>
    simp [block, output, Output.printed, lines, outgoing_plain]
  | discoveryReceived reply | operationReceived reply =>
    simp [block, output, Output.printed, lines, incoming_plain]
  | endpointResolved endpoint => simp [block, output, Output.printed, lines, endpoint_plain]

/-- The lines of a step and its messages. -/
def stepLines (shown : Step × List Notice) : List String :=
  headingLines shown.1 ++ shown.2.flatMap Notice.lines

/-- The line of the failure that ends a run, if there is one. -/
def failureLines (failure : Option Error) : List String :=
  (failure.map fun e => "✗ " ++ e.message).toList

theorem stepTexts_plain (shown : Step × List Notice) :
    String.join (stepTexts .plain shown) = unlines (stepLines shown) := by
  have hblock : Notice.block .plain = fun notice => unlines notice.lines :=
    funext Notice.block_plain
  simp [stepTexts, stepLines, heading_plain, hblock, unlines_append, unlines_flatMap]

theorem Narrated.printed {base : BaseUrl} {steps : List Step} {outcomes : List Outcome}
    {shown : List (Step × List Notice)} {failure : Option Error}
    {ran : Played Output (Except Error Unit)}
    (narrated : Narrated .plain base steps outcomes shown failure ran) :
    Output.printed ran.events = unlines (shown.flatMap stepLines ++ failureLines failure) := by
  have hsteps : String.join (shown.flatMap (stepTexts .plain)) =
      unlines (shown.flatMap stepLines) := by
    simp only [join_flatMap, stepTexts_plain, unlines_flatMap]
  have hfailure : String.join (failure.map (Report.diagnostic .plain)).toList =
      unlines (failureLines failure) := by
    cases failure with
    | none => rfl
    | some e => simp [failureLines, diagnostic_plain]
  rw [Output.printed_eq_join, ← Played.texts, narrated.texts, String.join_append, hsteps,
    hfailure, unlines_append]

/-- The failure that ends a run and that it reports: its chain lacks an entry, or the execution of a
step fails. -/
inductive RunFailure (base : BaseUrl) (table : Table) (id : String) (outcomes : List Outcome) :
    Error → Prop
  | unknown {x : String} (chain : table.chain id = .error (.unknownTestCase x)) :
      RunFailure base table id outcomes (.unknownTestCase x)
  | interrupted {steps : List Step} {e : Error} (chain : table.chain id = .ok steps)
      (interrupted : Interrupted base steps outcomes e) : RunFailure base table id outcomes e

namespace RunFailure

variable {base : BaseUrl} {table : Table} {id : String} {outcomes : List Outcome} {e e' : Error}

theorem iff_interrupted {steps : List Step} (h : table.chain id = .ok steps) :
    RunFailure base table id outcomes e ↔ Interrupted base steps outcomes e := by
  constructor
  · intro failure
    cases failure with
    | unknown chain => cases h.symm.trans chain
    | interrupted chain interrupted =>
      obtain rfl := Except.ok.inj (h.symm.trans chain)
      exact interrupted
  · exact .interrupted h

theorem iff_endsTestCase (h : table.chain id = .error e) :
    RunFailure base table id outcomes e' ↔ e.endsTestCase ∧ e = e' := by
  constructor
  · intro failure
    cases failure with
    | unknown chain =>
      obtain rfl := Except.error.inj (h.symm.trans chain)
      exact ⟨rfl, rfl⟩
    | interrupted chain _ => cases h.symm.trans chain
  · rintro ⟨hends, rfl⟩
    rcases Table.eq_of_chain_eq_error h with ⟨x, rfl⟩ | ⟨x, rfl⟩
    · exact .unknown h
    · cases hends

end RunFailure

/-- The transcript of a run is its traffic.  With colours off a run prints for every step that it
attempts the heading of the step and the lines of each message, and behind them the failure if one
ends it.  The messages are the requests that are handed over and the replies that the transport
gives, each of them once and in this order. -/
theorem runTestCase_transcript (base : BaseUrl) (table : Table) (id : String)
    (outcomes : List Outcome) :
    let ran := (runTestCase .plain base table id).play outcomes
    ran.sent = ran.exchanges.map (·.1) ∧
    (∀ (k : Nat) (exchange : Request × Outcome), ran.exchanges[k]? = some exchange →
      exchange.2 = outcomes.getD k Session.refused) ∧
    ∃ (shown : List (Step × List Notice)) (failure : Option Error),
      Output.printed ran.events =
        unlines (shown.flatMap stepLines ++ failureLines failure) ∧
      (∀ e, failure = some e ↔ RunFailure base table id outcomes e) ∧
      (shown.flatMap (·.2)).filterMap Notice.message? = ran.exchanges.flatMap messages ∧
      (∀ exchange ∈ ran.exchanges, ∀ body, exchange.1.body = some body →
        '\n' ∉ body.text.toList) ∧
      match table.chain id with
      | .error _ => shown = [] ∧ ran.exchanges = []
      | .ok steps => Transcript base steps ran.exchanges shown failure := by
  intro ran
  refine ⟨ran.sent_eq, Session.exchanges_outcome _ outcomes, ?_⟩
  cases hchain : table.chain id with
  | ok steps =>
    obtain ⟨shown, failure, narrated⟩ := exists_narrated_runSteps .plain base steps outcomes
    have hran : ran = (runSteps .plain base steps).play outcomes := by
      simp only [ran, runTestCase, hchain]
    rw [← hran] at narrated
    refine ⟨shown, failure, narrated.printed, fun e => ?_,
      narrated.transcript.filterMap_message?, fun _ _ body _ => body.newline_not_mem_text,
      narrated.transcript⟩
    rw [narrated.interrupted e, RunFailure.iff_interrupted hchain]
  | error e =>
    have hran : ran = (reportFailure .plain e).play outcomes := by
      simp only [ran, runTestCase, hchain]
    have hexchanges : ran.exchanges = [] := by
      rw [hran, exchanges_reportFailure]
    have hprinted : Output.printed ran.events =
        unlines (failureLines (if e.endsTestCase then some e else none)) := by
      rw [Output.printed_eq_join, ← Played.texts, hran, texts_reportFailure]
      split
      · simp [failureLines, diagnostic_plain]
      · rfl
    refine ⟨[], if e.endsTestCase then some e else none, hprinted, fun e' => ?_, ?_, ?_, rfl,
      hexchanges⟩
    · rw [RunFailure.iff_endsTestCase hchain]
      split <;> simp [*]
    · rw [hexchanges]
      rfl
    · simp [hexchanges]

end Stimulus
