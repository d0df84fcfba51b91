import Stimulus.Proofs.Run.Play
import Stimulus.Proofs.Table.Loop

/-! The requests of a run.  `Traffic` lists what can go out over the steps of a chain: a request for
the list of clients, an operation if its reply resolves to a client, and the next step if the
operation is answered.  The traffic of a run is the one whose outcomes are those of the transport,
and it is at most two requests for each entry of the table. -/

namespace Stimulus

open Session (refused)

/-- The exchanges over the steps of a chain.  Every step sends `discovery` first; `sends` relates it
and the endpoint in the reply to its operation. -/
inductive Traffic (discovery : Request) (sends : Step → String → Request → Prop) :
    List Step → List (Request × Outcome) → Prop
  | finished : Traffic discovery sends [] []
  | undiscovered {step : Step} {steps : List Step} {detail : String} :
      Traffic discovery sends (step :: steps) [(discovery, .error detail)]
  | unresolved {step : Step} {steps : List Step} {reply : Reply} {failure : ResolutionFailure}
      (refused : reply.resolveEndpoint = .error failure) :
      Traffic discovery sends (step :: steps) [(discovery, .ok reply)]
  | unanswered {step : Step} {steps : List Step} {reply : Reply} {endpoint detail : String}
      {request : Request} (resolved : reply.resolveEndpoint = .ok endpoint)
      (operation : sends step endpoint request) :
      Traffic discovery sends (step :: steps)
        [(discovery, .ok reply), (request, .error detail)]
  | answered {step : Step} {steps : List Step} {reply answer : Reply} {endpoint : String}
      {request : Request} {exchanges : List (Request × Outcome)}
      (resolved : reply.resolveEndpoint = .ok endpoint)
      (operation : sends step endpoint request)
      (rest : Traffic discovery sends steps exchanges) :
      Traffic discovery sends (step :: steps)
        ((discovery, .ok reply) :: (request, .ok answer) :: exchanges)

namespace Traffic

variable {discovery : Request} {sends sends' : Step → String → Request → Prop}
  {steps : List Step} {exchanges exchanges' : List (Request × Outcome)}

theorem mono (traffic : Traffic discovery sends steps exchanges)
    (h : ∀ step ∈ steps, ∀ endpoint request, sends step endpoint request →
      sends' step endpoint request) : Traffic discovery sends' steps exchanges := by
  induction traffic with
  | finished => exact .finished
  | undiscovered => exact .undiscovered
  | unresolved refused => exact .unresolved refused
  | unanswered resolved operation =>
    exact .unanswered resolved (h _ (.head _) _ _ operation)
  | answered resolved operation _ ih =>
    have hrest := ih fun step hstep => h step (.tail _ hstep)
    exact .answered resolved (h _ (.head _) _ _ operation) hrest

theorem length_le (traffic : Traffic discovery sends steps exchanges) :
    exchanges.length ≤ 2 * steps.length := by
  induction traffic with
  | answered _ _ _ ih => simp; omega
  | _ => simp <;> omega

/-- The outcomes determine the traffic if a step and an endpoint determine the operation. -/
theorem unique (traffic : Traffic discovery sends steps exchanges)
    (traffic' : Traffic discovery sends steps exchanges')
    (hsends : ∀ step endpoint request request', sends step endpoint request →
      sends step endpoint request' → request = request')
    (houtcomes : ∀ (k : Nat) (exchange exchange' : Request × Outcome),
      exchanges[k]? = some exchange → exchanges'[k]? = some exchange' →
        exchange.2 = exchange'.2) :
    exchanges = exchanges' := by
  -- Two cases that differ would differ in an outcome or in what one reply resolves to.
  induction traffic generalizing exchanges' with
  | finished =>
    cases traffic'
    rfl
  | undiscovered =>
    cases traffic' with
    | undiscovered =>
      cases houtcomes 0 _ _ rfl rfl
      rfl
    | _ => cases houtcomes 0 _ _ rfl rfl
  | unresolved refused =>
    cases traffic' with
    | undiscovered => cases houtcomes 0 _ _ rfl rfl
    | unresolved refused' =>
      cases houtcomes 0 _ _ rfl rfl
      rfl
    | unanswered resolved' _ | answered resolved' _ _ =>
      cases houtcomes 0 _ _ rfl rfl
      cases refused.symm.trans resolved'
  | unanswered resolved operation =>
    cases traffic' with
    | undiscovered => cases houtcomes 0 _ _ rfl rfl
    | unresolved refused' =>
      cases houtcomes 0 _ _ rfl rfl
      cases resolved.symm.trans refused'
    | unanswered resolved' operation' =>
      cases houtcomes 0 _ _ rfl rfl
      cases houtcomes 1 _ _ rfl rfl
      cases resolved.symm.trans resolved'
      rw [hsends _ _ _ _ operation operation']
    | answered _ _ _ => cases houtcomes 1 _ _ rfl rfl
  | answered resolved operation rest ih =>
    cases traffic' with
    | undiscovered => cases houtcomes 0 _ _ rfl rfl
    | unresolved refused' =>
      cases houtcomes 0 _ _ rfl rfl
      cases resolved.symm.trans refused'
    | unanswered _ _ => cases houtcomes 1 _ _ rfl rfl
    | answered resolved' operation' rest' =>
      cases houtcomes 0 _ _ rfl rfl
      cases houtcomes 1 _ _ rfl rfl
      cases resolved.symm.trans resolved'
      rw [hsends _ _ _ _ operation operation',
        ih rest' fun k exchange exchange' h h' => houtcomes (k + 2) exchange exchange' h h']

end Traffic

/-! ### The traffic of a run -/

theorem exchanges_runSteps_cons (palette : Palette) (base : BaseUrl) (step : Step)
    (rest : List Step) (outcomes : List Outcome) :
    ((runSteps palette base (step :: rest)).play outcomes).exchanges =
      ((base.execute step.2).play outcomes).exchanges ++
        ((afterStep palette base rest ((base.execute step.2).play outcomes).value).play
          ((base.execute step.2).play outcomes).unused).exchanges := by
  rw [play_runSteps_cons, Session.Played.exchanges_after, Session.filterMap_exchange?_told,
    transcript, Session.filterMap_exchange?_retell]
  rfl

theorem traffic_runSteps (palette : Palette) (base : BaseUrl) (steps : List Step)
    (outcomes : List Outcome) :
    Traffic base.discoveryRequest
      (fun step endpoint request => request = base.operationRequest endpoint step.2) steps
      ((runSteps palette base steps).play outcomes).exchanges := by
  induction steps generalizing outcomes with
  | nil => exact .finished
  | cons step rest ih =>
    -- Only an execution that is answered leaves its unused outcomes to the rest of the run.
    rw [exchanges_runSteps_cons]
    have execution := play_execute base step.2 outcomes
    generalize (base.execute step.2).play outcomes = played at execution ⊢
    cases execution with
    | undiscovered _ =>
      simpa [Session.Played.exchanges_mk, afterStep, exchanges_reportFailure]
        using .undiscovered
    | unresolved _ refused =>
      simpa [Session.Played.exchanges_mk, afterStep, exchanges_reportFailure]
        using .unresolved refused
    | unanswered _ resolved _ =>
      simpa [Session.Played.exchanges_mk, afterStep, exchanges_reportFailure]
        using .unanswered resolved rfl
    | @answered _ _ _ unused _ _ resolved _ =>
      simpa [Session.Played.exchanges_mk, afterStep] using .answered resolved rfl (ih unused)

/-- The request that an entry asks for on the client of an endpoint. -/
def Descriptor.Asks (base : BaseUrl) (descriptor : Descriptor) (endpoint : String)
    (request : Request) : Prop :=
  request.method = descriptor.method ∧
    request.url = (base.operation endpoint descriptor).text ∧
    request.body =
      if descriptor.method = .put ∨ descriptor.method = .post then descriptor.payload else none

theorem Descriptor.body_eq (descriptor : Descriptor) :
    descriptor.body =
      if descriptor.method = .put ∨ descriptor.method = .post then descriptor.payload
      else none := by
  rw [body]
  cases descriptor.method <;> rfl

theorem Descriptor.asks_iff {base : BaseUrl} {descriptor : Descriptor} {endpoint : String}
    {request : Request} :
    descriptor.Asks base endpoint request ↔
      request = base.operationRequest endpoint descriptor := by
  obtain ⟨method, url, body⟩ := request
  simp [Asks, BaseUrl.operationRequest, descriptor.body_eq]

theorem exchanges_runTestCase (palette : Palette) (base : BaseUrl) (table : Table) (id : String)
    (outcomes : List Outcome) :
    ((runTestCase palette base table id).play outcomes).exchanges =
      match table.chain id with
      | .error _ => []
      | .ok steps => ((runSteps palette base steps).play outcomes).exchanges := by
  rw [runTestCase]
  cases table.chain id with
  | error e => exact exchanges_reportFailure palette e outcomes
  | ok steps => rfl

/-- The requests of a run are the traffic of its chain on the outcomes of the transport, and there
is no other such traffic; a run without a chain sends nothing. -/
theorem runTestCase_traffic (palette : Palette) (base : BaseUrl) (table : Table) (id : String)
    (outcomes : List Outcome) :
    let ran := (runTestCase palette base table id).play outcomes
    ran.sent = ran.exchanges.map (·.1) ∧ ran.sent.length ≤ 2 * table.size ∧
    match table.chain id with
    | .error _ => ran.sent = []
    | .ok steps =>
      ran.sent.length ≤ 2 * steps.length ∧ steps.length ≤ table.size ∧
      ∀ exchanges, ran.exchanges = exchanges ↔
        Traffic ⟨.get, base.clients.text, none⟩
          (fun step endpoint request => step.2.Asks base endpoint request) steps exchanges ∧
        ∀ (k : Nat) (exchange : Request × Outcome), exchanges[k]? = some exchange →
          exchange.2 = outcomes.getD k refused := by
  intro ran
  have hsent : ran.sent = ran.exchanges.map (·.1) := ran.sent_eq
  have hexchanges := exchanges_runTestCase palette base table id outcomes
  refine ⟨hsent, ?_⟩
  cases hchain : table.chain id with
  | error e =>
    rw [hchain] at hexchanges
    simp [hsent, ran, hexchanges]
  | ok steps =>
    rw [hchain] at hexchanges
    have htraffic : Traffic ⟨.get, base.clients.text, none⟩
        (fun step endpoint request => step.2.Asks base endpoint request) steps ran.exchanges := by
      simp only [Descriptor.asks_iff, ran, hexchanges]
      exact traffic_runSteps palette base steps outcomes
    have hlength : ran.sent.length ≤ 2 * steps.length := by
      simpa [hsent] using htraffic.length_le
    have hsize := (Table.chain_eq_ok_iff.mp hchain).length_le_size
    have houtcomes := Session.exchanges_outcome (runTestCase palette base table id) outcomes
    refine ⟨by omega, hlength, hsize, fun exchanges => ⟨?_, fun ⟨htraffic', houtcomes'⟩ => ?_⟩⟩
    · rintro rfl
      exact ⟨htraffic, houtcomes⟩
    · refine htraffic.unique htraffic' (fun step endpoint request request' h h' => ?_)
        fun k exchange exchange' h h' => ?_
      · rw [Descriptor.asks_iff.mp h, Descriptor.asks_iff.mp h']
      · rw [houtcomes k exchange h, houtcomes' k exchange' h']

end Stimulus
