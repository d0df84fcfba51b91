import Stimulus.Exchange.Session

/-! What playing a session gives.  Every way to build a session has its equation: a play of two
sessions in sequence is the play of the first, followed by the play of the second on the outcomes
that the first leaves.  The requests of a play get the outcomes in order. -/

namespace Stimulus.Session

variable {ε φ α β δ : Type}

/-- The outcome of the next request, and the outcomes of those behind it. -/
def draw : List Outcome → Outcome × List Outcome
  | [] => (refused, [])
  | outcome :: outcomes => (outcome, outcomes)

/-- A play with moments before its own. -/
def Played.after (moments : List (Moment ε)) (played : Played ε α) : Played ε α :=
  { played with moments := moments ++ played.moments }

@[simp] theorem Played.after_moments (moments : List (Moment ε)) (played : Played ε α) :
    (played.after moments).moments = moments ++ played.moments := rfl

@[simp] theorem Played.after_value (moments : List (Moment ε)) (played : Played ε α) :
    (played.after moments).value = played.value := rfl

/-! ### Equations -/

@[simp] theorem play_done (value : α) (outcomes : List Outcome) :
    (done value : Session ε α).play outcomes = ⟨[], outcomes, value⟩ := rfl

@[simp] theorem play_tell (event : ε) (rest : Session ε α) (outcomes : List Outcome) :
    (tell event rest).play outcomes = (rest.play outcomes).after [.told event] := rfl

theorem play_ask (request : Request) (answer : Outcome → Session ε α) (outcomes : List Outcome) :
    (ask request answer).play outcomes =
      ((answer (draw outcomes).1).play (draw outcomes).2).after
        [.asked request (draw outcomes).1] := by
  cases outcomes <;> rfl

theorem play_bind (session : Session ε α) (next : α → Session ε β) (outcomes : List Outcome) :
    (session.bind next).play outcomes =
      ((next (session.play outcomes).value).play (session.play outcomes).unused).after
        (session.play outcomes).moments := by
  induction session generalizing outcomes with
  | done value => rfl
  | tell event rest ih => simp [bind, ih, Played.after]
  | ask request answer ih => simp [bind, play_ask, ih, Played.after]

theorem play_andThen (session : Session ε (Except δ α)) (next : α → Session ε (Except δ β))
    (outcomes : List Outcome) :
    (session.andThen next).play outcomes =
      (match (session.play outcomes).value with
        | .ok value => (next value).play (session.play outcomes).unused
        | .error e => ⟨[], (session.play outcomes).unused, .error e⟩).after
        (session.play outcomes).moments := by
  rw [andThen, play_bind]
  cases (session.play outcomes).value <;> rfl

theorem play_sayAll (events : List ε) (outcomes : List Outcome) :
    (sayAll events).play outcomes = ⟨events.map .told, outcomes, ()⟩ := by
  induction events with
  | nil => rfl
  | cons event events ih => simp [sayAll, ih, Played.after]

/-- A moment with other events in the place of its event. -/
def Moment.retell (f : ε → List φ) : Moment ε → List (Moment φ)
  | .told event => (f event).map .told
  | .asked request outcome => [.asked request outcome]

theorem play_retell (f : ε → List φ) (session : Session ε α) (outcomes : List Outcome) :
    (session.retell f).play outcomes =
      ⟨(session.play outcomes).moments.flatMap (Moment.retell f),
        (session.play outcomes).unused, (session.play outcomes).value⟩ := by
  induction session generalizing outcomes with
  | done value => rfl
  | tell event rest ih => simp [retell, play_bind, play_sayAll, ih, Played.after, Moment.retell]
  | ask request answer ih => simp [retell, play_ask, ih, Played.after, Moment.retell]

/-! ### Events -/

/-- The event of a moment. -/
def Moment.event? : Moment ε → Option ε
  | .told event => some event
  | .asked _ _ => none

theorem Played.events_eq (played : Played ε α) :
    played.events = played.moments.filterMap Moment.event? := rfl

theorem Played.events_after (moments : List (Moment ε)) (played : Played ε α) :
    (played.after moments).events = moments.filterMap Moment.event? ++ played.events := by
  simp [events_eq]

theorem Played.mem_events {event : ε} {played : Played ε α} :
    event ∈ played.events ↔ .told event ∈ played.moments := by
  simp only [events, List.mem_filterMap]
  constructor
  · rintro ⟨moment, hmem, hevent⟩
    cases moment with
    | told told =>
      obtain rfl := Option.some.inj hevent
      exact hmem
    | asked _ _ => cases hevent
  · exact fun hmem => ⟨_, hmem, rfl⟩

/-- Another event in the place of each one. -/
theorem filterMap_event?_retell (f : ε → φ) (moments : List (Moment ε)) :
    (moments.flatMap (Moment.retell fun event => [f event])).filterMap Moment.event? =
      (moments.filterMap Moment.event?).map f := by
  induction moments with
  | nil => rfl
  | cons moment moments ih =>
    cases moment <;> simpa [Moment.retell, Moment.event?, List.filterMap_cons] using ih

/-! ### Exchanges -/

/-- The request of a moment, with what became of it. -/
def Moment.exchange? : Moment ε → Option (Request × Outcome)
  | .told _ => none
  | .asked request outcome => some (request, outcome)

@[simp] theorem filterMap_exchange?_told (event : ε) (moments : List (Moment ε)) :
    (.told event :: moments).filterMap Moment.exchange? = moments.filterMap Moment.exchange? :=
  rfl

@[simp] theorem filterMap_exchange?_asked (request : Request) (outcome : Outcome)
    (moments : List (Moment ε)) :
    (.asked request outcome :: moments).filterMap Moment.exchange? =
      (request, outcome) :: moments.filterMap Moment.exchange? := rfl

/-- The requests that were sent, in order, each with what became of it. -/
def Played.exchanges (played : Played ε α) : List (Request × Outcome) :=
  played.moments.filterMap Moment.exchange?

@[simp] theorem Played.exchanges_mk (moments : List (Moment ε)) (unused : List Outcome)
    (value : α) :
    (Played.mk moments unused value).exchanges = moments.filterMap Moment.exchange? := rfl

theorem Played.sent_eq (played : Played ε α) : played.sent = played.exchanges.map (·.1) := by
  simp only [sent, exchanges, List.map_filterMap]
  congr 1
  funext moment
  cases moment <;> rfl

theorem Played.exchanges_after (moments : List (Moment ε)) (played : Played ε α) :
    (played.after moments).exchanges =
      moments.filterMap Moment.exchange? ++ played.exchanges := by
  simp [exchanges]

/-- Other events leave the exchanges as they are. -/
theorem filterMap_exchange?_retell (f : ε → List φ) (moments : List (Moment ε)) :
    (moments.flatMap (Moment.retell f)).filterMap Moment.exchange? =
      moments.filterMap Moment.exchange? := by
  induction moments with
  | nil => rfl
  | cons moment moments ih =>
    cases moment with
    | told event =>
      have h : ((f event).map Moment.told).filterMap Moment.exchange? = [] := by
        simp [List.filterMap_eq_nil_iff, Moment.exchange?]
      simpa [Moment.retell, h] using ih
    | asked request outcome => simpa [Moment.retell] using ih

/-- Request number `k` gets outcome number `k`, or is refused when there are fewer. -/
theorem exchanges_outcome (session : Session ε α) (outcomes : List Outcome) (k : Nat)
    (exchange : Request × Outcome) (h : (session.play outcomes).exchanges[k]? = some exchange) :
    exchange.2 = outcomes.getD k refused := by
  induction session generalizing outcomes k with
  | done value => simp [Played.exchanges] at h
  | tell event rest ih =>
    exact ih outcomes k (by simpa [Played.exchanges] using h)
  | ask request answer ih =>
    rw [play_ask, Played.exchanges_after] at h
    cases k with
    | zero =>
      obtain rfl : (request, (draw outcomes).1) = exchange := by
        simpa using h
      cases outcomes <;> rfl
    | succ k =>
      rw [ih _ _ k (by simpa using h)]
      cases outcomes <;> rfl

end Stimulus.Session
