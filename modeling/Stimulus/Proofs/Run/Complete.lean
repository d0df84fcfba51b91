import Stimulus.Proofs.Report
import Stimulus.Proofs.Result
import Stimulus.Proofs.Run.Traffic
import Stimulus.Proofs.Table.Validate
import Stimulus.Proofs.Url.Operation

/-! Runs on a server that answers everything.  A table without problems has nothing that would stop
such a run: it passes every step of its chain, with two requests each, and prints no failure. -/

namespace Stimulus

open Session (Moment Played draw)

/-- The replies that serve one step: a list of clients that resolves to one of them, and the answer
to the operation. -/
structure Served where
  clients : Reply
  endpoint : String
  answer : Reply
  resolved : clients.resolveEndpoint = .ok endpoint

namespace Served

def outcomes (served : Served) : List Outcome := [.ok served.clients, .ok served.answer]

/-- The two exchanges of a step that is served, its operation with the payload of the entry. -/
def exchanges (base : BaseUrl) (step : Step) (served : Served) : List (Request × Outcome) :=
  [(⟨.get, base.clients.text, none⟩, .ok served.clients),
    (⟨step.2.method, (base.operation served.endpoint step.2).text, step.2.payload⟩,
      .ok served.answer)]

end Served

/-- The execution of an entry that is served comes to its end. -/
theorem execute_served (base : BaseUrl) (step : Step) (served : Served) (rest : List Outcome)
    (hbody : step.2.body = step.2.payload) :
    ∃ exchange, ((base.execute step.2).play (served.outcomes ++ rest)).value = .ok exchange ∧
      ((base.execute step.2).play (served.outcomes ++ rest)).unused = rest ∧
      ((base.execute step.2).play (served.outcomes ++ rest)).exchanges =
        served.exchanges base step := by
  have execution := play_execute base step.2 (served.outcomes ++ rest)
  generalize (base.execute step.2).play (served.outcomes ++ rest) = played at execution ⊢
  have hserved := served.resolved
  cases execution with
  | undiscovered lost => cases lost
  | unresolved found refused =>
    cases found
    cases hserved.symm.trans refused
  | unanswered found _ lost =>
    cases found
    cases lost
  | answered found resolved done =>
    cases found
    cases done
    cases hserved.symm.trans resolved
    refine ⟨_, rfl, rfl, ?_⟩
    simp [Served.exchanges, BaseUrl.discoveryRequest, BaseUrl.operationRequest, Request.get, hbody]

/-! ### Runs -/

/-- What a run leaves when each of its steps is served: the exchanges of the steps in order, and no
text that could be taken for a failure. -/
structure Completed (palette : Palette) (base : BaseUrl) (steps : List Step)
    (served : List Served) (rest : List Outcome)
    (ran : Played Output (Except Error Unit)) : Prop where
  value : ran.value = .ok ()
  unused : ran.unused = rest
  exchanges : ran.exchanges =
    (steps.zip served).flatMap fun (step, served) => served.exchanges base step
  unmarked : ∀ text, .print text ∈ ran.events → ¬Report.failureMark palette <+: text.toList

theorem runSteps_completed (palette : Palette) (base : BaseUrl) {steps : List Step}
    {served : List Served} (hbody : ∀ step ∈ steps, step.2.body = step.2.payload)
    (hserved : served.length = steps.length) (rest : List Outcome) :
    Completed palette base steps served rest
      ((runSteps palette base steps).play (served.flatMap Served.outcomes ++ rest)) := by
  induction steps generalizing served with
  | nil =>
    obtain rfl := List.length_eq_zero_iff.mp hserved
    exact ⟨rfl, rfl, rfl, fun text h => by simp [runSteps, Session.Played.events] at h⟩
  | cons step steps ih =>
    obtain ⟨first, served, rfl⟩ := List.exists_cons_of_length_eq_add_one hserved
    -- The first step uses up its own two replies and leaves those of the others.
    obtain ⟨exchange, hvalue, hunused, hexchanges⟩ := execute_served base step first
      (served.flatMap Served.outcomes ++ rest) (hbody step (.head _))
    have hrest := ih (fun step hstep => hbody step (.tail _ hstep))
      (Nat.succ.inj (by simpa using hserved))
    rw [List.flatMap_cons, List.append_assoc]
    constructor
    case value =>
      rw [play_runSteps_cons, hvalue, hunused]
      exact hrest.value
    case unused =>
      rw [play_runSteps_cons, hvalue, hunused]
      exact hrest.unused
    case exchanges =>
      rw [exchanges_runSteps_cons, hvalue, hunused, hexchanges]
      exact congrArg _ hrest.exchanges
    case unmarked =>
      intro text h
      rw [play_runSteps_cons, hvalue, hunused, Session.Played.mem_events,
        Session.Played.after_moments, List.mem_append, List.mem_cons] at h
      rcases h with (h | h) | h
      · cases h
        exact Report.not_failureMark_prefix_heading palette step
      · obtain ⟨notice, hnotice⟩ := exists_of_told_mem_transcript h
        exact notice.not_failureMark_prefix_output palette hnotice
      · exact hrest.unmarked text (Session.Played.mem_events.mpr h)

theorem runTestCase_of_walk (palette : Palette) (base : BaseUrl) {table : Table} {id : String}
    {steps : List Step} (walk : table.Walk id steps) :
    runTestCase palette base table id = runSteps palette base steps := by
  rw [runTestCase, Table.chain_eq_ok_iff.mpr walk]

/-- A table without problems runs completely on a server that serves every step: the run passes
exactly the entries that the links reach, each once and in the order of the links, with the two
requests of every entry and the payload that it declares, and it prints no failure. -/
theorem runTestCase_complete (palette : Palette) (base : BaseUrl) {table : Table} {id : String}
    (hvalid : table.validate = []) (hid : id ∈ table.ids) :
    ∃ steps, Table.Walk table id steps ∧ (steps.map (·.1)).Nodup ∧
      (∀ x, x ∈ steps.map (·.1) ↔ Relation.ReflTransGen table.Links id x) ∧
      ∀ (served : List Served) (rest : List Outcome), served.length = steps.length →
        let ran := (runTestCase palette base table id).play
          (served.flatMap Served.outcomes ++ rest)
        ran.value = .ok () ∧ (∀ e, .print (Report.diagnostic palette e) ∉ ran.events) ∧
          ran.sent.length = 2 * steps.length ∧ ran.unused = rest ∧
          ran.exchanges =
            (steps.zip served).flatMap fun (step, served) => served.exchanges base step := by
  obtain ⟨steps, hwalk⟩ := Table.exists_walk hvalid hid
  refine ⟨steps, hwalk, hwalk.nodup, fun x => hwalk.mem_iff_reachable, ?_⟩
  intro served rest hserved ran
  have hbody : ∀ step ∈ steps, step.2.body = step.2.payload :=
    fun step hstep => hwalk.body_eq_payload hvalid hstep
  have hcompleted : Completed palette base steps served rest ran := by
    simp only [ran, runTestCase_of_walk palette base hwalk]
    exact runSteps_completed palette base hbody hserved rest
  have hlength : ran.sent.length = 2 * steps.length := by
    rw [ran.sent_eq, hcompleted.exchanges]
    simp [List.length_flatMap, Served.exchanges, hserved, Nat.mul_comm]
  refine ⟨hcompleted.value, fun e he => ?_, hlength, hcompleted.unused, hcompleted.exchanges⟩
  exact hcompleted.unmarked _ he (Report.failureMark_prefix_diagnostic palette e)

/-! A table whose first entry has a payload and a link to the second. -/

def onEntry : Descriptor := ⟨none, .put, "/3311/0/5850", .text, some (.string "1"), some "state"⟩

def stateEntry : Descriptor := ⟨none, .get, "/3311/0/5850", .text, none, none⟩

def switching : Table := .ofEntries "switching" [("on", onEntry), ("state", stateEntry)]

theorem walk_switching : switching.Walk "on" [("on", onEntry), ("state", stateEntry)] := by
  have hstate : switching.Walk "state" [("state", stateEntry)] := .last rfl rfl
  exact .link rfl rfl hstate

/-- A server with one client. -/
def lamp : Served where
  clients := ⟨200, "[\x7b\"endpoint\": \"lamp\"\x7d]"⟩
  endpoint := "lamp"
  answer := ⟨204, ""⟩
  resolved := eq_ok_of_toOption (by decide +kernel)

theorem runTestCase_complete_switching :
    switching.validate = [] ∧ "on" ∈ switching.ids ∧
      ((runTestCase .plain .loopback switching "on").play
        (lamp.outcomes ++ lamp.outcomes)).value = .ok () ∧
      ((runTestCase .plain .loopback switching "on").play
        (lamp.outcomes ++ lamp.outcomes)).exchanges =
        lamp.exchanges .loopback ("on", onEntry) ++
          lamp.exchanges .loopback ("state", stateEntry) := by
  have hvalid : switching.validate = [] := by decide +kernel
  have hid : "on" ∈ switching.ids := by decide +kernel
  obtain ⟨steps, hwalk, -, -, hrun⟩ := runTestCase_complete .plain .loopback hvalid hid
  obtain rfl := hwalk.unique walk_switching
  have hran := hrun [lamp, lamp] [] rfl
  exact ⟨hvalid, hid, hran.1, hran.2.2.2.2⟩

end Stimulus
