import Stimulus.Proofs.Exchange.Course

/-! Executions that somebody watches, over any transport.  An observer is told each message and has
no say in what is sent: `run_eq_play` states that a session goes as it does on the outcomes that the
transport gives, whoever watches.  So the execution of an entry has the same course alone, watched,
or phase by phase. -/

namespace Stimulus

/-- Something that is told each message of an execution, and changes its state at it. -/
structure Observer (σ : Type) where
  discoverySent : Request → σ → σ
  discoveryReceived : Reply → σ → σ
  endpointResolved : String → σ → σ
  operationSent : String → Request → σ → σ
  operationReceived : Reply → σ → σ

namespace Observer

/-- The observer that does nothing. -/
def idle : Observer Unit :=
  ⟨fun _ => id, fun _ => id, fun _ => id, fun _ _ => id, fun _ => id⟩

/-- The state of an observer after a notice; entries of the log are not for it. -/
def see {σ : Type} (observer : Observer σ) (state : σ) : Notice → σ
  | .discoverySent request => observer.discoverySent request state
  | .discoveryReceived reply => observer.discoveryReceived reply state
  | .endpointResolved endpoint => observer.endpointResolved endpoint state
  | .operationSent endpoint request => observer.operationSent endpoint request state
  | .operationReceived reply => observer.operationReceived reply state
  | .log _ => state

end Observer

/-- Something that carries requests.  What becomes of one may depend on all that went before. -/
structure Transport (τ : Type) where
  send : Request → τ → Outcome × τ

/-- The states of a transport and of an observer, with the requests that were handed over so far. -/
structure World (σ τ : Type) where
  transport : τ
  exchanges : List (Request × Outcome)
  observer : σ

variable {σ τ α β : Type}

/-- Hands a request to the transport. -/
def World.send (transport : Transport τ) (request : Request) (world : World σ τ) :
    Outcome × World σ τ :=
  let (outcome, state) := transport.send request world.transport
  (outcome, { world with
    transport := state
    exchanges := world.exchanges ++ [(request, outcome)] })

/-- Tells an observer. -/
def World.tell (observer : Observer σ) (notice : Notice) (world : World σ τ) : World σ τ :=
  { world with observer := observer.see world.observer notice }

namespace Session

/-- Runs a session over a transport while an observer watches. -/
def run (transport : Transport τ) (observer : Observer σ) (session : Session Notice α) :
    StateM (World σ τ) α :=
  session.perform (fun notice => modify (World.tell observer notice))
    (fun request => modifyGet (World.send transport request))

variable (transport : Transport τ) (observer : Observer σ)

theorem run_done (value : α) (world : World σ τ) :
    (done value).run transport observer world = (value, world) := rfl

theorem run_tell (notice : Notice) (rest : Session Notice α) (world : World σ τ) :
    (tell notice rest).run transport observer world =
      rest.run transport observer (world.tell observer notice) := rfl

theorem run_ask (request : Request) (answer : Outcome → Session Notice α) (world : World σ τ) :
    (ask request answer).run transport observer world =
      (answer (world.send transport request).1).run transport observer
        (world.send transport request).2 := rfl

theorem run_bind (session : Session Notice α) (next : α → Session Notice β) :
    (session.bind next).run transport observer =
      session.run transport observer >>= fun value => (next value).run transport observer := by
  funext world
  induction session generalizing world with
  | done value => rfl
  | tell notice rest ih => exact ih _
  | ask request answer ih => exact ih _ _

/-- The outcomes that a transport gives for the requests of a session, and its state after them. -/
def answers : Session Notice α → τ → List Outcome × τ
  | done _, state => ([], state)
  | tell _ rest, state => rest.answers state
  | ask request answer, state =>
    let (outcome, state) := transport.send request state
    let (outcomes, state) := (answer outcome).answers state
    (outcome :: outcomes, state)

/-- A session over a transport is played on the outcomes that the transport gives. -/
theorem run_eq_play (session : Session Notice α) (world : World σ τ) {outcomes : List Outcome}
    {state : τ} (h : session.answers transport world.transport = (outcomes, state)) :
    session.run transport observer world =
      ((session.play outcomes).value,
        { transport := state
          exchanges := world.exchanges ++ (session.play outcomes).exchanges
          observer := (session.play outcomes).events.foldl observer.see world.observer }) := by
  induction session generalizing world outcomes with
  | done value =>
    cases h
    simp [run_done, Played.events]
  | tell notice rest ih =>
    rw [run_tell, ih (world.tell observer notice) h]
    simp [World.tell, Played.exchanges, Played.events]
  | ask request answer ih =>
    cases h
    rw [run_ask, ih (world.send transport request).1 (world.send transport request).2 rfl]
    simp [World.send, Played.exchanges, Played.events, play_ask, draw]

end Session

theorem Observer.foldl_see_filter (observer : Observer σ) (notices : List Notice) (seen : σ) :
    (notices.filter Notice.isMessage).foldl observer.see seen =
      notices.foldl observer.see seen := by
  induction notices generalizing seen with
  | nil => rfl
  | cons notice notices ih => cases notice <;> exact ih _

/-! ### Phase by phase -/

/-- Discovery on its own, and then the operation on the client that was found. -/
def discoverThenPerform (transport : Transport τ) (observer : Observer σ) (base : BaseUrl)
    (descriptor : Descriptor) : StateM (World σ τ) (Except Error Exchange) := do
  match ← base.discover.run transport observer with
  | .error e => return .error e
  | .ok discovery =>
    match ← (base.perform discovery.endpoint descriptor).run transport observer with
    | .error e => return .error e
    | .ok (request, reply) => return .ok { discovery, request, reply }

theorem discoverThenPerform_eq_run (transport : Transport τ) (observer : Observer σ)
    (base : BaseUrl) (descriptor : Descriptor) :
    discoverThenPerform transport observer base descriptor =
      (base.execute descriptor).run transport observer := by
  rw [BaseUrl.execute, Session.andThen, Session.run_bind, discoverThenPerform]
  congr 1
  funext discovered
  cases discovered with
  | error e => rfl
  | ok discovery =>
    simp only [Session.andThen, Session.run_bind]
    congr 1
    funext performed
    cases performed <;> rfl

/-- The execution of an entry has one course over a transport in a given state, and it has this
course alone, watched by anyone, or phase by phase.  An observer sees the messages of the course,
which are the first one, two, four or all five of those of an execution that comes to its end. -/
theorem execute_course (base : BaseUrl) (descriptor : Descriptor) (transport : Transport τ)
    (state : τ) :
    let alone := (base.execute descriptor).run transport .idle ⟨state, [], ()⟩
    discoverThenPerform transport .idle base descriptor ⟨state, [], ()⟩ = alone ∧
    (∀ exchange, alone.1 = .ok exchange ↔
      ∃ reply endpoint answer,
        alone.2.exchanges = [(base.discoveryRequest, .ok reply),
          (base.operationRequest endpoint descriptor, .ok answer)] ∧
        reply.resolveEndpoint = .ok endpoint ∧
        exchange = { discovery := { reply, endpoint },
                     request := base.operationRequest endpoint descriptor, reply := answer }) ∧
    ∃ told, Course base descriptor alone.2.exchanges told alone.1 ∧
      (∃ reply endpoint answer, told <+: completeMessages base descriptor reply endpoint answer) ∧
      (told.length = 1 ∨ told.length = 2 ∨ told.length = 4 ∨ told.length = 5) ∧
      ∀ (σ : Type) (observer : Observer σ) (seen : σ),
        (base.execute descriptor).run transport observer ⟨state, [], seen⟩ =
          (alone.1, { alone.2 with observer := told.foldl observer.see seen }) := by
  intro alone
  rcases hanswers : (base.execute descriptor).answers transport state with ⟨outcomes, state'⟩
  have hrun (σ : Type) (observer : Observer σ) (seen : σ) :=
    Session.run_eq_play transport observer _ ⟨state, [], seen⟩ hanswers
  have halone := hrun Unit .idle ()
  have hcourse := (play_execute base descriptor outcomes).course
  generalize (base.execute descriptor).play outcomes = played at hrun halone hcourse
  change alone = _ at halone
  clear_value alone
  subst halone
  refine ⟨?_, fun exchange => hcourse.result_eq_ok_iff, _, hcourse, hcourse.told_prefix.1,
    hcourse.told_prefix.2, fun σ observer seen => ?_⟩
  · rw [discoverThenPerform_eq_run, hrun]
  · rw [hrun, observer.foldl_see_filter]

end Stimulus
