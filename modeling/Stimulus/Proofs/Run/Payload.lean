import Stimulus.Http.Message
import Stimulus.Proofs.Run.Transcript
import Stimulus.Proofs.Table.Payload
import Stimulus.Proofs.Url.Operation

/-! Payloads in a run.  What the text of a table writes for an entry under `payload` is the body of
every request that a run sends for the entry, and the last line that is printed of the request. -/

namespace Stimulus

/-- A request with this body: its message to a server ends with the body, and says its length. -/
structure Request.Carries (request : Request) (body : String) : Prop where
  body_eq : request.body.map Json.text = some body
  encode_eq : ∀ url, ∃ head, (Http.encode request url).toList =
    head ++ "content-length: ".toList ++ Decimal.ofNat body.utf8ByteSize ++ Http.lineEnd ++
      Http.lineEnd ++ body.toList

theorem Request.carries_of_body {request : Request} {json : Json} (h : request.body = some json) :
    request.Carries json.text where
  body_eq := by rw [h, Option.map_some]
  encode_eq url := by
    simp only [Http.encode, h, Option.map_some, Http.bodyFields, Option.getD_some,
      String.toList_ofList, String.ofList_toList, List.flatMap_cons, List.flatMap_append,
      List.flatMap_nil, List.append_nil, ← List.append_assoc]
    exact ⟨_, rfl⟩

theorem block_of_carries {request : Request} {body : String} (h : request.Carries body)
    (palette : Palette) (endpoint : String) :
    (Notice.operationSent endpoint request).block palette =
      Report.outgoing palette ("Send request to client " ++ endpoint)
          { request with body := none } ++ Report.line body := by
  obtain ⟨json, hjson, rfl⟩ := Option.map_eq_some_iff.mp h.body_eq
  simp [Notice.block, Notice.output, Output.printed, Report.outgoing, hjson, Request.text]

theorem Course.request_eq {base : BaseUrl} {descriptor : Descriptor}
    {exchanges : List (Request × Outcome)} {told : List Notice} {result : Except Error Exchange}
    (course : Course base descriptor exchanges told result) {endpoint : String} {request : Request}
    (h : .operationSent endpoint request ∈ told) :
    request = base.operationRequest endpoint descriptor := by
  cases course with
  | undiscovered | unresolved _ => simp at h
  | unanswered _ | answered _ =>
    obtain ⟨rfl, rfl⟩ : endpoint = _ ∧ request = _ := by simpa [completeMessages] using h
    rfl

theorem Transcript.request_eq {base : BaseUrl} {steps : List Step}
    {exchanges : List (Request × Outcome)} {shown : List (Step × List Notice)}
    {failure : Option Error} (transcript : Transcript base steps exchanges shown failure)
    {step : Step} {told : List Notice} (hshown : (step, told) ∈ shown) {endpoint : String}
    {request : Request} (h : .operationSent endpoint request ∈ told) :
    request = base.operationRequest endpoint step.2 := by
  induction transcript with
  | finished => cases hshown
  | ended course =>
    obtain ⟨rfl, rfl⟩ := Prod.mk.inj (List.mem_singleton.mp hshown)
    exact course.request_eq h
  | continued course _ ih =>
    rcases List.mem_cons.mp hshown with heq | hshown
    · obtain ⟨rfl, rfl⟩ := Prod.mk.inj heq
      exact course.request_eq h
    · exact ih hshown

/-- A payload reaches the server as it is written.  Some text is read as JSON that holds what the
tree under `payload` does, and it is the body of each request that a run sends for the entry and the
last line that is printed of it. -/
theorem runTestCase_payload {text id : String} {table : Table} {descriptor : Descriptor}
    {tree : Yaml.Tree} (htable : Table.parse text = .ok table)
    (hentry : table.get? id = some descriptor)
    (hmethod : descriptor.method = .put ∨ descriptor.method = .post)
    (htree : Table.writtenPayload? text id = some tree)
    (hpayload : tree.isPayload Json.greatestDepth = true) (hthere : tree.isNothing = false) :
    ∃ body value, Json.parse body = .ok value ∧ tree.Means value ∧
      ∀ palette base start outcomes steps, table.chain start = .ok steps →
        let ran := (runTestCase palette base table start).play outcomes
        Traffic base.discoveryRequest
          (fun step endpoint request => request = base.operationRequest endpoint step.2 ∧
            (step.1 = id → request.Carries body)) steps ran.exchanges ∧
        ∃ shown failure, Narrated palette base steps outcomes shown failure ran ∧
          ∀ told, ((id, descriptor), told) ∈ shown → ∀ endpoint request,
            .operationSent endpoint request ∈ told →
              (Notice.operationSent endpoint request).block palette =
                Report.outgoing palette ("Send request to client " ++ endpoint)
                    { request with body := none } ++ Report.line body := by
  obtain ⟨place, hread⟩ := Table.exists_value?_of_parse htable hentry htree
  obtain ⟨json, hjson, hmeans, hportable⟩ := Yaml.Tree.value?_eq hpayload hthere place
  have hgiven : descriptor.payload = some json := Except.ok.inj (hread.symm.trans hjson)
  have hcarries (base : BaseUrl) (endpoint : String) :
      (base.operationRequest endpoint descriptor).Carries json.text := by
    apply Request.carries_of_body
    rw [BaseUrl.operationRequest, descriptor.body_eq, if_pos hmethod, hgiven]
  refine ⟨json.text, json, hportable.parse_text, hmeans, ?_⟩
  intro palette base start outcomes steps hchain ran
  have hran : ran = (runSteps palette base steps).play outcomes := by
    simp only [ran, runTestCase, hchain]
  rw [hran]
  refine ⟨(traffic_runSteps palette base steps outcomes).mono ?_, ?_⟩
  · rintro step hstep endpoint request rfl
    refine ⟨rfl, fun hid => ?_⟩
    have hget := (Table.chain_eq_ok_iff.mp hchain).get?_of_mem hstep
    rw [hid, hentry] at hget
    rw [← Option.some.inj hget]
    exact hcarries base endpoint
  · obtain ⟨shown, failure, narrated⟩ := exists_narrated_runSteps palette base steps outcomes
    refine ⟨shown, failure, narrated, fun told hshown endpoint request hsent => ?_⟩
    obtain rfl := narrated.transcript.request_eq hshown hsent
    exact block_of_carries (hcarries base endpoint) palette endpoint

/-- The text of a table with one entry, whose payload nests and has a quote and a tab in it. -/
def nestedTable : String :=
  "test_cases: \x7bon: \x7bmethod: PUT, path: /3/0, payload: " ++
    "\x7bé: [~, 'on', -9223372036854775808], \"\\\"\": \"\\t\"\x7d\x7d\x7d"

theorem runTestCase_payload_nested :
    ∃ table descriptor tree body value, Table.parse nestedTable = .ok table ∧
      table.get? "on" = some descriptor ∧ descriptor.method = .put ∧
      Table.writtenPayload? nestedTable "on" = some tree ∧
      tree.isPayload Json.greatestDepth = true ∧ tree.isNothing = false ∧
      Json.parse body = .ok value ∧ tree.Means value ∧
      ∀ outcomes steps, table.chain "on" = .ok steps →
        Traffic BaseUrl.loopback.discoveryRequest
          (fun step endpoint request =>
            request = BaseUrl.loopback.operationRequest endpoint step.2 ∧
            (step.1 = "on" → request.Carries body)) steps
          ((runTestCase .plain BaseUrl.loopback table "on").play outcomes).exchanges := by
  have hparsed : ((Table.parse nestedTable).toOption.bind fun table => table.get? "on").any
      (fun descriptor => descriptor.method = .put) = true := by decide +kernel
  have hwritten : (Table.writtenPayload? nestedTable "on").any
      (fun tree => tree.isPayload Json.greatestDepth && !tree.isNothing) = true := by decide +kernel
  obtain ⟨descriptor, hentry, hmethod⟩ := (Option.any_eq_true _ _).mp hparsed
  obtain ⟨table, htable, hentry⟩ := Option.bind_eq_some_iff.mp hentry
  obtain ⟨tree, htree, hpayload⟩ := (Option.any_eq_true _ _).mp hwritten
  have htable := eq_ok_of_toOption htable
  have hmethod : descriptor.method = .put := of_decide_eq_true hmethod
  obtain ⟨hpayload, hthere⟩ := (Bool.and_eq_true _ _).mp hpayload
  have hthere : tree.isNothing = false := by simpa using hthere
  obtain ⟨body, value, hvalue, hmeans, hruns⟩ :=
    runTestCase_payload htable hentry (.inl hmethod) htree hpayload hthere
  refine ⟨table, descriptor, tree, body, value, htable, hentry, hmethod, htree, hpayload, hthere,
    hvalue, hmeans, fun outcomes steps hchain => ?_⟩
  exact (hruns .plain BaseUrl.loopback "on" outcomes steps hchain).1

end Stimulus
