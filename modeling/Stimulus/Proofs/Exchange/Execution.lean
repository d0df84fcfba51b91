import Stimulus.Exchange.Operation
import Stimulus.Proofs.Exchange.Play

/-! The four ways in which the execution of an entry can go: discovery gets no reply, its reply
resolves to no client, the operation gets no reply, or both phases come to their end.  `Execution`
lists them with all their moments, and `execution` states that there is no other. -/

namespace Stimulus

open Session (Moment Played draw)

/-- The moments of sending a request of a phase. -/
def Phase.moments (phase : Phase) (request : Request) : Outcome → List (Moment Notice)
  | .ok reply =>
    [.told (.entry .debug (phase.name ++ ": " ++ request.text)), .asked request (.ok reply)]
  | .error detail =>
    [.told (.entry .debug (phase.name ++ ": " ++ request.text)), .asked request (.error detail),
      .told (.entry .warn
        (phase.name ++ " request failed: " ++ (Error.network detail).message))]

theorem Phase.play_send_ok (phase : Phase) (request : Request) {outcomes unused : List Outcome}
    {reply : Reply} (h : draw outcomes = (.ok reply, unused)) :
    (phase.send request).play outcomes =
      ⟨phase.moments request (.ok reply), unused, .ok reply⟩ := by
  rw [Phase.send, Session.play_tell, Session.play_ask, h]
  rfl

theorem Phase.play_send_error (phase : Phase) (request : Request)
    {outcomes unused : List Outcome} {detail : String}
    (h : draw outcomes = (.error detail, unused)) :
    (phase.send request).play outcomes =
      ⟨phase.moments request (.error detail), unused, .error (.network detail)⟩ := by
  rw [Phase.send, Session.play_tell, Session.play_ask, h]
  rfl

/-- Sending is one exchange. -/
@[simp] theorem Phase.filterMap_exchange?_moments (phase : Phase) (request : Request)
    (outcome : Outcome) :
    (phase.moments request outcome).filterMap Moment.exchange? = [(request, outcome)] := by
  cases outcome <;> rfl

/-- What is told of an endpoint that a reply resolves to. -/
def Discovery.moments (endpoint : String) : List (Moment Notice) :=
  [.told (.entry .info ("Resolved device endpoint '" ++ endpoint ++ "'")),
    .told (.endpointResolved endpoint)]

@[simp] theorem Discovery.filterMap_exchange?_moments (endpoint : String) :
    (Discovery.moments endpoint).filterMap Moment.exchange? = [] := rfl

/-- How the execution of an entry goes on a list of outcomes. -/
inductive Execution (base : BaseUrl) (descriptor : Descriptor) (outcomes : List Outcome) :
    Played Notice (Except Error Exchange) → Prop
  | undiscovered {detail : String} {unused : List Outcome}
      (lost : draw outcomes = (.error detail, unused)) :
      Execution base descriptor outcomes
        ⟨.told (.discoverySent base.discoveryRequest) ::
            Phase.discovery.moments base.discoveryRequest (.error detail),
          unused, .error (.network detail)⟩
  | unresolved {reply : Reply} {unused : List Outcome} {failure : ResolutionFailure}
      (found : draw outcomes = (.ok reply, unused))
      (refused : reply.resolveEndpoint = .error failure) :
      Execution base descriptor outcomes
        ⟨.told (.discoverySent base.discoveryRequest) ::
            Phase.discovery.moments base.discoveryRequest (.ok reply) ++
            [.told (.discoveryReceived reply)],
          unused, .error failure.toError⟩
  | unanswered {reply : Reply} {rest unused : List Outcome} {endpoint detail : String}
      (found : draw outcomes = (.ok reply, rest))
      (resolved : reply.resolveEndpoint = .ok endpoint)
      (lost : draw rest = (.error detail, unused)) :
      Execution base descriptor outcomes
        ⟨.told (.discoverySent base.discoveryRequest) ::
            Phase.discovery.moments base.discoveryRequest (.ok reply) ++
            .told (.discoveryReceived reply) :: Discovery.moments endpoint ++
            .told (.operationSent endpoint (base.operationRequest endpoint descriptor)) ::
            Phase.operation.moments (base.operationRequest endpoint descriptor) (.error detail),
          unused, .error (.network detail)⟩
  | answered {reply answer : Reply} {rest unused : List Outcome} {endpoint : String}
      (found : draw outcomes = (.ok reply, rest))
      (resolved : reply.resolveEndpoint = .ok endpoint)
      (done : draw rest = (.ok answer, unused)) :
      Execution base descriptor outcomes
        ⟨.told (.discoverySent base.discoveryRequest) ::
            Phase.discovery.moments base.discoveryRequest (.ok reply) ++
            .told (.discoveryReceived reply) :: Discovery.moments endpoint ++
            .told (.operationSent endpoint (base.operationRequest endpoint descriptor)) ::
            Phase.operation.moments (base.operationRequest endpoint descriptor) (.ok answer) ++
            [.told (.operationReceived answer)],
          unused,
          .ok { discovery := { reply, endpoint },
                request := base.operationRequest endpoint descriptor, reply := answer }⟩

theorem play_execute (base : BaseUrl) (descriptor : Descriptor) (outcomes : List Outcome) :
    Execution base descriptor outcomes ((base.execute descriptor).play outcomes) := by
  simp only [BaseUrl.execute, BaseUrl.discover, Session.play_andThen, Session.play_tell]
  rcases hfound : draw outcomes with ⟨found, rest⟩
  cases found with
  | error detail =>
    have h : Execution base descriptor outcomes _ := .undiscovered hfound
    simpa [Phase.play_send_error _ _ hfound, Played.after] using h
  | ok reply =>
    rw [Phase.play_send_ok _ _ hfound]
    cases hresolved : reply.resolveEndpoint with
    | error failure =>
      have h : Execution base descriptor outcomes _ := .unresolved hfound hresolved
      simpa [Discovery.ofReply, hresolved, Played.after] using h
    | ok endpoint =>
      simp only [Discovery.ofReply, hresolved, BaseUrl.perform, Session.play_andThen,
        Session.play_tell]
      rcases hdone : draw rest with ⟨done, unused⟩
      cases done with
      | error detail =>
        have h : Execution base descriptor outcomes _ := .unanswered hfound hresolved hdone
        simpa [Phase.play_send_error _ _ hdone, Discovery.moments, Played.after] using h
      | ok answer =>
        have h : Execution base descriptor outcomes _ := .answered hfound hresolved hdone
        simpa [Phase.play_send_ok _ _ hdone, Discovery.moments, Played.after] using h

end Stimulus
