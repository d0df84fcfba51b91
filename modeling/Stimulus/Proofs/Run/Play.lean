import Stimulus.Proofs.Exchange.Execution
import Stimulus.Run

/-! What playing a run gives: the heading of the first step and its execution, followed by the rest
of the run when the execution succeeds and by the report of its failure when it does not. -/

namespace Stimulus

open Session (Moment Played)

/-- What the moments of an execution become in the transcript. -/
def transcript (palette : Palette) (moments : List (Moment Notice)) : List (Moment Output) :=
  moments.flatMap (Moment.retell fun notice => [notice.output palette])

theorem exists_of_told_mem_transcript {palette : Palette} {moments : List (Moment Notice)}
    {output : Output} (h : .told output ∈ transcript palette moments) :
    ∃ notice : Notice, notice.output palette = output := by
  obtain ⟨moment, -, hmem⟩ := List.mem_flatMap.mp h
  cases moment with
  | told notice => exact ⟨notice, by simpa [Moment.retell, eq_comm] using hmem⟩
  | asked _ _ => simp [Moment.retell] at hmem

/-- What follows the first step of a run, by the result of its execution. -/
def afterStep (palette : Palette) (base : BaseUrl) (rest : List Step) :
    Except Error Exchange → CommandSession
  | .ok _ => runSteps palette base rest
  | .error e => reportFailure palette e

theorem play_runSteps_cons (palette : Palette) (base : BaseUrl) (step : Step) (rest : List Step)
    (outcomes : List Outcome) :
    (runSteps palette base (step :: rest)).play outcomes =
      ((afterStep palette base rest ((base.execute step.2).play outcomes).value).play
          ((base.execute step.2).play outcomes).unused).after
        (.told (.print (Report.heading palette step)) ::
          transcript palette ((base.execute step.2).play outcomes).moments) := by
  rw [runSteps, Session.play_tell, Session.play_bind, Session.play_retell]
  cases ((base.execute step.2).play outcomes).value <;> rfl

/-- The report of a failure: the two things it tells of one that ends the test case. -/
theorem play_reportFailure (palette : Palette) (e : Error) (outcomes : List Outcome) :
    (reportFailure palette e).play outcomes =
      if e.endsTestCase then
        ⟨[.told (.note .debug ("Stopping after failure: " ++ e.message)),
          .told (.print (Report.diagnostic palette e))], outcomes, .ok ()⟩
      else ⟨[], outcomes, .error e⟩ := by
  rw [reportFailure]
  split <;> rfl

theorem exchanges_reportFailure (palette : Palette) (e : Error) (outcomes : List Outcome) :
    ((reportFailure palette e).play outcomes).exchanges = [] := by
  rw [play_reportFailure]
  split <;> rfl

end Stimulus
