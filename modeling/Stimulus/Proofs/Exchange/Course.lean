import Stimulus.Proofs.Exchange.Execution

/-! The courses of an execution, without what only the log is told.  `Course` lists them: discovery
gets no reply, its reply resolves to no client, the operation gets no reply, or it is answered.
What is told is always the beginning of the five messages of an execution that is answered. -/

namespace Stimulus

/-- Whether a notice is a message, and not an entry of the log. -/
def Notice.isMessage : Notice → Bool
  | .log _ => false
  | _ => true

/-- The five messages of an execution that comes to its end. -/
def completeMessages (base : BaseUrl) (descriptor : Descriptor) (reply : Reply) (endpoint : String)
    (answer : Reply) : List Notice :=
  [.discoverySent base.discoveryRequest, .discoveryReceived reply, .endpointResolved endpoint,
    .operationSent endpoint (base.operationRequest endpoint descriptor), .operationReceived answer]

/-- The courses of an execution: the requests that are handed over, each with what becomes of it,
the messages that are told, and the result. -/
inductive Course (base : BaseUrl) (descriptor : Descriptor) :
    List (Request × Outcome) → List Notice → Except Error Exchange → Prop
  | undiscovered {detail : String} :
      Course base descriptor [(base.discoveryRequest, .error detail)]
        [.discoverySent base.discoveryRequest] (.error (.network detail))
  | unresolved {reply : Reply} {failure : ResolutionFailure}
      (refused : reply.resolveEndpoint = .error failure) :
      Course base descriptor [(base.discoveryRequest, .ok reply)]
        [.discoverySent base.discoveryRequest, .discoveryReceived reply]
        (.error failure.toError)
  | unanswered {reply : Reply} {endpoint detail : String}
      (resolved : reply.resolveEndpoint = .ok endpoint) :
      Course base descriptor
        [(base.discoveryRequest, .ok reply),
          (base.operationRequest endpoint descriptor, .error detail)]
        [.discoverySent base.discoveryRequest, .discoveryReceived reply,
          .endpointResolved endpoint,
          .operationSent endpoint (base.operationRequest endpoint descriptor)]
        (.error (.network detail))
  | answered {reply answer : Reply} {endpoint : String}
      (resolved : reply.resolveEndpoint = .ok endpoint) :
      Course base descriptor
        [(base.discoveryRequest, .ok reply),
          (base.operationRequest endpoint descriptor, .ok answer)]
        (completeMessages base descriptor reply endpoint answer)
        (.ok { discovery := { reply, endpoint },
               request := base.operationRequest endpoint descriptor, reply := answer })

theorem Execution.course {base : BaseUrl} {descriptor : Descriptor} {outcomes : List Outcome}
    {played : Session.Played Notice (Except Error Exchange)}
    (execution : Execution base descriptor outcomes played) :
    Course base descriptor played.exchanges (played.events.filter Notice.isMessage)
      played.value := by
  cases execution with
  | undiscovered _ => exact .undiscovered
  | unresolved _ refused => exact .unresolved refused
  | @unanswered reply _ _ endpoint detail _ resolved _ =>
    have h : Course base descriptor _ _ _ := @Course.unanswered _ _ reply endpoint detail resolved
    simpa [Session.Played.events, Phase.moments, Discovery.moments, Notice.entry,
      List.filter_cons, Notice.isMessage] using h
  | @answered reply answer _ _ endpoint _ resolved _ =>
    have h : Course base descriptor _ _ _ := @Course.answered _ _ reply answer endpoint resolved
    simpa [Session.Played.events, Phase.moments, Discovery.moments, Notice.entry,
      List.filter_cons, Notice.isMessage, completeMessages] using h

namespace Course

variable {base : BaseUrl} {descriptor : Descriptor} {exchanges : List (Request × Outcome)}
  {told : List Notice} {result : Except Error Exchange}

theorem told_prefix (course : Course base descriptor exchanges told result) :
    (∃ reply endpoint answer, told <+: completeMessages base descriptor reply endpoint answer) ∧
      (told.length = 1 ∨ told.length = 2 ∨ told.length = 4 ∨ told.length = 5) := by
  cases course with
  | undiscovered =>
    refine ⟨⟨⟨0, ""⟩, "", ⟨0, ""⟩, ?_⟩, .inl rfl⟩
    simp [completeMessages]
  | @unresolved reply _ _ =>
    refine ⟨⟨reply, "", ⟨0, ""⟩, ?_⟩, .inr (.inl rfl)⟩
    simp [completeMessages]
  | @unanswered reply endpoint _ _ =>
    refine ⟨⟨reply, endpoint, ⟨0, ""⟩, ?_⟩, .inr (.inr (.inl rfl))⟩
    simp [completeMessages]
  | @answered reply answer endpoint _ =>
    exact ⟨⟨reply, endpoint, answer, List.prefix_refl _⟩, .inr (.inr (.inr rfl))⟩

/-- An execution succeeds exactly when both requests get replies and the first one resolves. -/
theorem result_eq_ok_iff (course : Course base descriptor exchanges told result)
    {exchange : Exchange} :
    result = .ok exchange ↔
      ∃ reply endpoint answer,
        exchanges = [(base.discoveryRequest, .ok reply),
          (base.operationRequest endpoint descriptor, .ok answer)] ∧
        reply.resolveEndpoint = .ok endpoint ∧
        exchange = { discovery := { reply, endpoint },
                     request := base.operationRequest endpoint descriptor, reply := answer } := by
  constructor
  · rintro rfl
    cases course with
    | answered resolved => exact ⟨_, _, _, rfl, resolved, rfl⟩
  · rintro ⟨reply, endpoint, answer, hexchanges, hresolved, rfl⟩
    cases course with
    | undiscovered | unresolved _ | unanswered _ => simp at hexchanges
    | @answered reply' answer' endpoint' resolved =>
      obtain ⟨rfl, -, rfl⟩ :
          reply' = reply ∧ base.operationRequest endpoint' descriptor =
            base.operationRequest endpoint descriptor ∧ answer' = answer := by
        simpa using hexchanges
      obtain rfl := Except.ok.inj (resolved.symm.trans hresolved)
      rfl

end Course

end Stimulus
