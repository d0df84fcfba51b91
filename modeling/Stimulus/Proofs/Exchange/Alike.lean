import Mathlib.Data.List.Forall2
import Stimulus.Proofs.Exchange.Play

/-! Two relations that go through a session tree by tree.  `Alike` holds of sessions that differ in
nothing but the events they tell, so that a play of one is a play of the other with related events.
`Keeps` holds of a session that tells only events of one kind, whatever it is answered. -/

namespace Stimulus.Session

variable {ε φ α β δ : Type}

/-! ### Related events -/

/-- Sessions with related events in the same places, and no other difference. -/
inductive Alike (related : ε → φ → Prop) : Session ε α → Session φ α → Prop
  | done (value : α) : Alike related (.done value) (.done value)
  | tell {event : ε} {event' : φ} {rest : Session ε α} {rest' : Session φ α}
      (told : related event event') (later : Alike related rest rest') :
      Alike related (.tell event rest) (.tell event' rest')
  | ask (request : Request) {answer : Outcome → Session ε α} {answer' : Outcome → Session φ α}
      (answers : ∀ outcome, Alike related (answer outcome) (answer' outcome)) :
      Alike related (.ask request answer) (.ask request answer')

namespace Alike

variable {related : ε → φ → Prop}

theorem bind {session : Session ε α} {session' : Session φ α} {next : α → Session ε β}
    {next' : α → Session φ β} (alike : Alike related session session')
    (hnext : ∀ value, Alike related (next value) (next' value)) :
    Alike related (session.bind next) (session'.bind next') := by
  induction alike with
  | done value => exact hnext value
  | tell told _ ih => exact .tell told ih
  | ask request _ ih => exact .ask request ih

theorem sayAll {events : List ε} {events' : List φ} (h : List.Forall₂ related events events') :
    Alike related (Session.sayAll events) (Session.sayAll events') := by
  induction h with
  | nil => exact .done ()
  | cons told _ ih => exact .tell told ih

/-- One session, told in two ways. -/
theorem retell {f : δ → List ε} {g : δ → List φ}
    (h : ∀ event, List.Forall₂ related (f event) (g event)) (session : Session δ α) :
    Alike related (session.retell f) (session.retell g) := by
  induction session with
  | done value => exact .done value
  | tell event _ ih => exact (sayAll (h event)).bind fun _ => ih
  | ask request _ ih => exact .ask request ih

theorem play {session : Session ε α} {session' : Session φ α}
    (alike : Alike related session session') (outcomes : List Outcome) :
    (session.play outcomes).value = (session'.play outcomes).value ∧
      (session.play outcomes).exchanges = (session'.play outcomes).exchanges ∧
      List.Forall₂ related (session.play outcomes).events (session'.play outcomes).events := by
  induction alike generalizing outcomes with
  | done value => exact ⟨rfl, rfl, .nil⟩
  | tell told _ ih =>
    obtain ⟨hvalue, hexchanges, hevents⟩ := ih outcomes
    exact ⟨hvalue, hexchanges, .cons told hevents⟩
  | ask request _ ih =>
    obtain ⟨hvalue, hexchanges, hevents⟩ := ih (draw outcomes).1 (draw outcomes).2
    rw [play_ask, play_ask]
    exact ⟨hvalue, congrArg _ hexchanges, hevents⟩

end Alike

/-! ### Events of one kind -/

/-- A session tells only such events and ends in such a value if all that it is answered is of a
kind. -/
inductive Keeps (answers : Outcome → Prop) (tells : ε → Prop) (ends : α → Prop) :
    Session ε α → Prop
  | done {value : α} (ended : ends value) : Keeps answers tells ends (.done value)
  | tell {event : ε} {rest : Session ε α} (told : tells event)
      (later : Keeps answers tells ends rest) : Keeps answers tells ends (.tell event rest)
  | ask {request : Request} {answer : Outcome → Session ε α}
      (answered : ∀ outcome, answers outcome → Keeps answers tells ends (answer outcome)) :
      Keeps answers tells ends (.ask request answer)

namespace Keeps

variable {answers : Outcome → Prop} {tells : ε → Prop} {ends : α → Prop}

theorem bind {ends' : β → Prop} {session : Session ε α} {next : α → Session ε β}
    (keeps : Keeps answers tells ends session)
    (hnext : ∀ value, ends value → Keeps answers tells ends' (next value)) :
    Keeps answers tells ends' (session.bind next) := by
  induction keeps with
  | done ended => exact hnext _ ended
  | tell told _ ih => exact .tell told ih
  | ask _ ih => exact .ask ih

theorem sayAll {events : List ε} (h : ∀ event ∈ events, tells event) :
    Keeps answers tells (fun _ => True) (Session.sayAll events) := by
  induction events with
  | nil => exact .done trivial
  | cons event events ih =>
    obtain ⟨hevent, hevents⟩ := List.forall_mem_cons.mp h
    exact .tell hevent (ih hevents)

theorem retell {tells' : φ → Prop} {f : ε → List φ} {session : Session ε α}
    (keeps : Keeps answers tells ends session)
    (h : ∀ event, tells event → ∀ told ∈ f event, tells' told) :
    Keeps answers tells' ends (session.retell f) := by
  induction keeps with
  | done ended => exact .done ended
  | tell told _ ih => exact (sayAll (h _ told)).bind fun _ _ => ih
  | ask _ ih => exact .ask ih

theorem play {session : Session ε α} {outcomes : List Outcome}
    (keeps : Keeps answers tells ends session) (houtcomes : ∀ outcome ∈ outcomes, answers outcome)
    (hrefused : answers refused) : ∀ event ∈ (session.play outcomes).events, tells event := by
  induction keeps generalizing outcomes with
  | done ended => exact fun event hevent => nomatch hevent
  | tell told _ ih => exact List.forall_mem_cons.mpr ⟨told, ih houtcomes⟩
  | ask _ ih =>
    cases outcomes with
    | nil => exact ih refused hrefused houtcomes
    | cons outcome outcomes =>
      obtain ⟨houtcome, houtcomes⟩ := List.forall_mem_cons.mp houtcomes
      exact ih outcome houtcome houtcomes

end Keeps

end Stimulus.Session
