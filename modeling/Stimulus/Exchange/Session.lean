import Stimulus.Descriptor.Basic

/-!
Conversations with a server.  A session says what it has to tell, and asks one request at a time,
going on with whatever comes back; what carries the requests is left open.  `play` runs a session
against a list of outcomes and gives everything that happened, in order.
-/

namespace Stimulus

structure Request where
  method : Method
  url : String
  body : Option Json

/-- The request for what is at a URL. -/
def Request.get (url : String) : Request := ⟨.get, url, none⟩

def Request.text (request : Request) : String :=
  request.method.name ++ " " ++ request.url

structure Reply where
  status : Nat
  body : String
  deriving DecidableEq

/-- A status from 200 to 299. -/
def Reply.isSuccess (reply : Reply) : Bool :=
  200 ≤ reply.status && reply.status < 300

/-- What becomes of a request: a reply, or the reason why there is none. -/
abbrev Outcome := Except String Reply

/-- A conversation that tells events of type `ε` and ends in a value. -/
inductive Session (ε α : Type) where
  | done (value : α)
  | tell (event : ε) (rest : Session ε α)
  | ask (request : Request) (answer : Outcome → Session ε α)

namespace Session

variable {ε φ α β : Type}

def bind : Session ε α → (α → Session ε β) → Session ε β
  | done value, next => next value
  | tell event rest, next => tell event (rest.bind next)
  | ask request answer, next => ask request fun outcome => (answer outcome).bind next

instance : Monad (Session ε) where
  pure := done
  bind := bind

def sayAll : List ε → Session ε Unit
  | [] => done ()
  | event :: rest => tell event (sayAll rest)

def send (request : Request) : Session ε Outcome := ask request done

/-- The session with other events in the place of each one. -/
def retell (f : ε → List φ) : Session ε α → Session φ α
  | done value => done value
  | tell event rest => (sayAll (f event)).bind fun _ => rest.retell f
  | ask request answer => ask request fun outcome => (answer outcome).retell f

/-- Goes on with a success, and ends with a failure. -/
def andThen {δ : Type} (session : Session ε (Except δ α)) (next : α → Session ε (Except δ β)) :
    Session ε (Except δ β) :=
  session.bind fun
    | .ok value => next value
    | .error e => done (.error e)

/-! ## Playing -/

/-- One thing that happened in a session. -/
inductive Moment (ε : Type) where
  | told (event : ε)
  | asked (request : Request) (outcome : Outcome)

/-- Everything that happened in a session, and what is left. -/
structure Played (ε α : Type) where
  moments : List (Moment ε)
  unused : List Outcome
  value : α

/-- What becomes of a request when nothing listens. -/
def refused : Outcome := .error "connection refused"

/-- Runs a session against outcomes, one for each request; later requests are refused. -/
def play : Session ε α → List Outcome → Played ε α
  | done value, outcomes => ⟨[], outcomes, value⟩
  | tell event rest, outcomes =>
    let played := rest.play outcomes
    { played with moments := .told event :: played.moments }
  | ask request answer, [] =>
    let played := (answer refused).play []
    { played with moments := .asked request refused :: played.moments }
  | ask request answer, outcome :: outcomes =>
    let played := (answer outcome).play outcomes
    { played with moments := .asked request outcome :: played.moments }

def Played.sent (played : Played ε α) : List Request :=
  played.moments.filterMap fun
    | .asked request _ => some request
    | .told _ => none

def Played.events (played : Played ε α) : List ε :=
  played.moments.filterMap fun
    | .told event => some event
    | .asked _ _ => none

/-- Runs a session in any monad that can tell and send. -/
def perform {m : Type → Type} [Monad m] (tell : ε → m Unit) (send : Request → m Outcome) :
    Session ε α → m α
  | done value => pure value
  | .tell event rest => do
    tell event
    rest.perform tell send
  | ask request answer => do
    let outcome ← send request
    (answer outcome).perform tell send

end Session

end Stimulus
