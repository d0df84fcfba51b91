import Stimulus.Proofs.Preview
import Stimulus.Proofs.Run.Complete
import Stimulus.Proofs.Run.Payload

/-! The payload of a preview against the body of a request.  The lines that a preview indents under
the label of a payload, put together again without their indent and without the white space between
the tokens, are the text that a run sends for the entry and prints below its request. -/

namespace Stimulus

open Session (Played)

namespace Preview

/-- The lines behind the first one that are indented by four spaces, without the indent. -/
def indented (text : List Char) : List (List Char) :=
  (((text.splitOn '\n').drop 1).takeWhile ("    ".toList.isPrefixOf ·)).map (·.drop 4)

/-- What a preview says of a body: the lines under the label of the payload as one text, without the
white space outside strings. -/
def body (preview : Preview) : String :=
  String.ofList <| Json.withoutBlanks .outside <|
    ['\n'].intercalate (indented preview.payload.toList)

/-! ### Lines of a payload -/

/-- What follows the lines of a payload is not indented as they are. -/
theorem indented_append (payload : Json) {rest : List Char}
    (hrest : ∀ l ∈ (rest.splitOn '\n').head?, "    ".toList.isPrefixOf l = false) :
    indented ((Report.payloadLines payload).flatMap (· ++ ['\n']) ++ rest) =
      payload.prettyText.toList.splitOn '\n' := by
  have hlines : ∀ l ∈ (payload.prettyText.toList.splitOn '\n').map ("    ".toList ++ ·),
      "    ".toList.isPrefixOf l = true := by
    intro l hl
    obtain ⟨piece, -, rfl⟩ := List.mem_map.mp hl
    simp
  have hnone : (rest.splitOn '\n').takeWhile ("    ".toList.isPrefixOf ·) = [] := by
    cases hpieces : rest.splitOn '\n' with
    | nil => rfl
    | cons first pieces =>
      have hfirst := hrest first (by rw [hpieces]; rfl)
      rw [List.takeWhile_cons_of_neg (by rw [hfirst]; exact Bool.false_ne_true)]
  rw [indented, splitOn_flatMap_append fun l => Report.newline_not_mem_payloadLines,
    Report.payloadLines, List.cons_append, List.drop_one, List.tail_cons,
    List.takeWhile_append_of_pos hlines, hnone, List.append_nil, List.map_map]
  simp [Function.comp_def]

theorem indented_payload (palette : Palette) {descriptor : Descriptor} {payload : Json}
    (h : descriptor.payload = some payload) :
    indented (Report.payload palette descriptor).toList =
      payload.prettyText.toList.splitOn '\n' := by
  have hsent := Report.toList_sentPayload payload
  cases hcarries : descriptor.method.carriesBody with
  | true =>
    have hshown : Report.payload palette descriptor = Report.sentPayload payload := by
      simp [Report.payload, h, hcarries, Report.sentPayload]
    have hnothing : ∀ l ∈ (([] : List Char).splitOn '\n').head?,
        "    ".toList.isPrefixOf l = false := by simp
    have hlines := indented_append payload hnothing
    rwa [List.append_nil, ← hsent, ← hshown] at hlines
  | false =>
    have hshown : Report.payload palette descriptor = Report.sentPayload payload ++
        Report.line (Report.unsentWarning palette descriptor.method) := by
      simp [Report.payload, h, hcarries, Report.sentPayload, Report.unsentWarning]
    have hwarning := Report.newline_not_mem_unsentWarning palette descriptor.method
    rw [hshown, String.toList_append, hsent]
    -- The warning is indented by two spaces only.
    have hline : (Report.line (Report.unsentWarning palette descriptor.method)).toList.splitOn '\n' =
        [(Report.unsentWarning palette descriptor.method).toList, []] := by
      rw [Report.line, String.toList_append]
      exact List.splitOn_append_cons_self_of_not_mem hwarning []
    refine indented_append payload fun l hl => ?_
    obtain rfl : (Report.unsentWarning palette descriptor.method).toList = l := by
      simpa [hline] using hl
    cases palette <;> cases descriptor.method <;> decide

/-- The lines that are shown of a payload say its compact text, whether it is sent or not. -/
theorem body_ofStep (palette : Palette) (base : BaseUrl) {step : Step} {payload : Json}
    (h : step.2.payload = some payload) : (ofStep palette base step).body = payload.text := by
  apply String.toList_inj.mp
  rw [body, String.toList_ofList, ofStep, indented_payload palette h, List.intercalate_splitOn,
    Json.withoutBlanks_prettyText]

/-- The request of an entry carries the body that is shown of it. -/
theorem carries_body_ofStep (palette : Palette) (base : BaseUrl) (endpoint : String) {step : Step}
    (hmethod : step.2.method = .put ∨ step.2.method = .post) (hpayload : step.2.payload.isSome) :
    (base.operationRequest endpoint step.2).Carries (ofStep palette base step).body := by
  obtain ⟨payload, h⟩ := Option.isSome_iff_exists.mp hpayload
  rw [body_ofStep palette base h]
  apply Request.carries_of_body
  rw [BaseUrl.operationRequest, step.2.body_eq, if_pos hmethod, h]

end Preview

/-- The commands that expand a test case do nothing but log an entry before they go over its
steps. -/
theorem sessions_of_chain {files : FileView} {settings : Settings} {table : Table} {base : BaseUrl}
    {id : String} {steps : List Step} (htable : settings.loadTable files = .ok table)
    (hbase : BaseUrl.parse settings.baseUrl = .ok base) (hchain : table.chain id = .ok steps)
    (palette : Palette) :
    ∃ entry, Command.session palette files settings (.preview id) =
        .tell (.log entry) (Command.printAll (Command.previews palette base steps)) ∧
      Command.session palette files settings (.run id) =
        .tell (.log entry) (runSteps palette base steps) := by
  obtain ⟨entry, hpreview, hrun⟩ :=
    @session_of_table_of_base palette files settings table base htable hbase id
  rw [previewTestCase, hchain] at hpreview
  rw [runTestCase, hchain] at hrun
  exact ⟨entry, hpreview, hrun⟩

/-- The payload of a preview is the body of a request.  A preview prints a block for each step, and
in the block of any step with a payload, the lines that are indented under its label, without their
indent and without the blanks between tokens, are the compact text of the payload.  For an entry that
is put or posted, this text is what a run sends as the body, and the line that it prints below the
request. -/
theorem preview_payload_is_body {files : FileView} {settings : Settings} {table : Table}
    {base : BaseUrl} {id : String} {steps : List Step}
    (htable : settings.loadTable files = .ok table)
    (hbase : BaseUrl.parse settings.baseUrl = .ok base) (hchain : table.chain id = .ok steps)
    (palette palette' : Palette) (outcomes outcomes' : List Outcome) :
    let shown := ((Command.preview id).session palette files settings).play outcomes
    let ran := ((Command.run id).session palette' files settings).play outcomes'
    let preview := Preview.ofStep palette base
    let sends (step : Step) := (step.2.method = .put ∨ step.2.method = .post) ∧
      step.2.payload.isSome
    Output.printed shown.events =
      String.join ((steps.map fun step => (preview step).text palette step).intersperse "\n") ∧
    (∀ step payload, step.2.payload = some payload → (preview step).body = payload.text) ∧
    Traffic base.discoveryRequest
      (fun step endpoint request => request = base.operationRequest endpoint step.2 ∧
        (sends step → request.Carries (preview step).body)) steps ran.exchanges ∧
    ∃ attempted failure, Narrated palette' base steps outcomes' attempted failure ran ∧
      ∀ step told, (step, told) ∈ attempted → sends step →
        ∀ endpoint request, .operationSent endpoint request ∈ told →
          (Notice.operationSent endpoint request).block palette' =
            Report.outgoing palette' ("Send request to client " ++ endpoint)
                { request with body := none } ++ Report.line (preview step).body := by
  intro shown ran preview sends
  have hshown : Output.printed shown.events = Output.printed
      ((Command.printAll (Command.previews palette base steps)).play outcomes).events := by
    obtain ⟨entry, hpreview, -⟩ := sessions_of_chain htable hbase hchain palette
    simp [shown, hpreview, Played.events_after, Session.Moment.event?, Output.printed]
  obtain ⟨entry, -, hrun⟩ := sessions_of_chain htable hbase hchain palette'
  have hran : ran = ((runSteps palette' base steps).play outcomes').after [.told (.log entry)] := by
    simp only [ran, hrun, Session.play_tell]
  obtain ⟨attempted, failure, narrated⟩ := exists_narrated_runSteps palette' base steps outcomes'
  refine ⟨?_, fun step payload h => Preview.body_ofStep palette base h, ?_, attempted, failure,
    ?_, fun step told hattempted hsends endpoint request hsent => ?_⟩
  · rw [hshown]
    exact (play_previews palette base steps outcomes).2.2
  · rw [hran]
    refine (traffic_runSteps palette' base steps outcomes').mono ?_
    rintro step - endpoint request rfl
    exact ⟨rfl, fun h => Preview.carries_body_ofStep palette base endpoint h.1 h.2⟩
  · rw [hran]
    exact ⟨narrated.value, narrated.transcript, narrated.texts, narrated.interrupted⟩
  · obtain rfl := narrated.transcript.request_eq hattempted hsent
    exact block_of_carries (Preview.carries_body_ofStep palette base endpoint hsends.1 hsends.2)
      palette' endpoint

/-- A file system with the table of the nested payload alone. -/
def nestedFiles : FileView where
  isThere path := path == "t.yaml"
  bytes path := if path = "t.yaml" then .ok nestedTable.toUTF8 else .error .notFound

def nestedSettings : Settings := ⟨"http://[::1]/api/", some "t.yaml"⟩

/-- The compact text of the nested payload. -/
def nestedBody : String :=
  "\x7b\"\\\"\":\"\\t\",\"é\":[null,\"on\",-9223372036854775808]\x7d"

theorem preview_payload_is_body_nested :
    ∃ table steps step payload, nestedSettings.loadTable nestedFiles = .ok table ∧
      BaseUrl.parse nestedSettings.baseUrl = .ok .loopback ∧ table.chain "on" = .ok steps ∧
      step ∈ steps ∧ step.2.method = .put ∧ step.2.payload = some payload ∧
      (Preview.ofStep .ansi .loopback step).body = nestedBody ∧
      Traffic BaseUrl.loopback.discoveryRequest
        (fun step endpoint request =>
          request = BaseUrl.loopback.operationRequest endpoint step.2 ∧
          ((step.2.method = .put ∨ step.2.method = .post) ∧ step.2.payload.isSome →
            request.Carries (Preview.ofStep .ansi .loopback step).body)) steps
        (((Command.run "on").session .plain nestedFiles nestedSettings).play
          lamp.outcomes).exchanges := by
  have hread : ((nestedSettings.loadTable nestedFiles).toOption.bind fun table =>
      (table.chain "on").toOption).any (fun steps => steps.any fun step =>
        step.2.method = .put && step.2.payload.any (·.text = nestedBody)) = true := by
    decide +kernel
  obtain ⟨steps, hsteps, hread⟩ := (Option.any_eq_true _ _).mp hread
  obtain ⟨table, htable, hsteps⟩ := Option.bind_eq_some_iff.mp hsteps
  obtain ⟨step, hstep, hread⟩ := List.any_eq_true.mp hread
  obtain ⟨hmethod, hpayload⟩ := (Bool.and_eq_true _ _).mp hread
  obtain ⟨payload, hpayload, hbody⟩ := (Option.any_eq_true _ _).mp hpayload
  have htable := eq_ok_of_toOption htable
  have hchain := eq_ok_of_toOption hsteps
  have hbase : BaseUrl.parse nestedSettings.baseUrl = .ok .loopback := by rfl
  obtain ⟨-, hshown, hsent, -⟩ :=
    preview_payload_is_body htable hbase hchain .ansi .plain [] lamp.outcomes
  exact ⟨table, steps, step, payload, htable, hbase, hchain, hstep, of_decide_eq_true hmethod,
    hpayload, (hshown step payload hpayload).trans (of_decide_eq_true hbody), hsent⟩

end Stimulus
