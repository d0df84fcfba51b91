import Stimulus.Proofs.Table.Ends
import Stimulus.Proofs.Table.Validate

/-! The problems that a check lists.  Each entry has its part of the list, in the order of the
identifiers, and the part depends on the entry and on the end of its chain alone.  The link is
reported once, however the chain fails, and no entry keeps another one from being reported. -/

namespace Stimulus.Table

open Relation (ReflTransGen TransGen)

variable {table : Table} {step : Step}

/-- The problem of an identifier that is blank. -/
def identifierReport (step : Step) : List Error :=
  if Text.isBlankText step.1 then [.invalidDescriptor step.1 "identifier is empty"] else []

/-- The problems of an entry on its own. -/
def ownReport (step : Step) : List Error :=
  step.2.problems.map fun problem => .invalidDescriptor step.1 problem.message

/-- The problem of an entry's link, from how its chain ends: an unknown identifier that the entry
itself names is called one of its own. -/
def linkReport (step : Step) : Except Error (List Step) → List Error
  | .ok _ => []
  | .error e =>
    match step.2.next with
    | none => [e]
    | some next =>
      if e = .unknownTestCase next then
        [.invalidDescriptor step.1 (LinkProblem.unknownNext next).message]
      else [e]

/-- What can be wrong with an entry's link, and how it is reported. -/
inductive LinkFailure (table : Table) (step : Step) : Error → Prop
  | unknownNext {next : String} (link : step.2.next = some next)
      (absent : table.get? next = none) :
      LinkFailure table step
        (.invalidDescriptor step.1 (LinkProblem.unknownNext next).message)
  | unknownLater {x : String} (reach : ReflTransGen table.Links step.1 x)
      (later : step.2.next ≠ some x) (absent : table.get? x = none) :
      LinkFailure table step (.unknownTestCase x)
  | cycle {x : String} (reach : ReflTransGen table.Links step.1 x)
      (cycle : TransGen table.Links x x) :
      LinkFailure table step (.invalidDescriptor step.1 (LinkProblem.loopsBack x).message)

theorem get?_of_mem_entries (hstep : step ∈ table.entries) :
    table.get? step.1 = some step.2 :=
  Keyed.get?_of_mem table.sorted hstep

theorem linkProblem?_eq (hstep : step ∈ table.entries) :
    (table.linkProblem? step.1 step.2).toList = linkReport step (table.chain step.1) := by
  have entry := get?_of_mem_entries hstep
  unfold linkProblem?
  cases link : step.2.next with
  | none =>
    have hchain : table.chain step.1 = .ok [(step.1, step.2)] :=
      chain_eq_ok_iff.mpr (.last entry link)
    rw [hchain]
    rfl
  | some next =>
    have hlinks : table.Links step.1 next := ⟨step.2, entry, link⟩
    cases hnext : table.get? next with
    | none =>
      have hchain : table.chain step.1 = .error (.unknownTestCase next) :=
        chain_eq_unknown_iff.mpr ⟨.single hlinks, hnext⟩
      simp [hchain, hnext, linkReport, link]
    | some descriptor =>
      -- Once the link leads to an entry, an unknown identifier is one that comes later.
      have hknown : table.chain step.1 ≠ .error (.unknownTestCase next) := by
        intro hchain
        rw [(chain_eq_unknown_iff.mp hchain).2] at hnext
        cases hnext
      cases hchain : table.chain step.1 with
      | ok steps => simp [hnext, linkReport]
      | error e =>
        have hne : e ≠ .unknownTestCase next := fun heq => hknown (by rw [hchain, heq])
        simp [hnext, linkReport, link, hne]

theorem validate_eq_flatMap (table : Table) :
    table.validate = table.entries.flatMap fun step =>
      identifierReport step ++ ownReport step ++ linkReport step (table.chain step.1) := by
  have hparts : ∀ step ∈ table.entries, table.entryProblems step =
      identifierReport step ++ ownReport step ++ linkReport step (table.chain step.1) := by
    intro step hstep
    rw [← linkProblem?_eq hstep]
    rfl
  simp only [validate, List.flatMap_def]
  rw [List.map_congr_left hparts]

/-- The report on a link is empty if the chain succeeds, and one failure of the link if not. -/
theorem linkReport_cases (table : Table) (step : Step) :
    ((∃ steps, table.chain step.1 = .ok steps) ∧ linkReport step (table.chain step.1) = []) ∨
    ((∃ e, table.chain step.1 = .error e) ∧ ∃ problem,
      linkReport step (table.chain step.1) = [problem] ∧ LinkFailure table step problem) := by
  have hending := ending_chain table step.1
  generalize table.chain step.1 = result at hending ⊢
  cases hending with
  | last => exact .inl ⟨⟨_, rfl⟩, rfl⟩
  | @unknown _ x trail absent =>
    refine .inr ⟨⟨_, rfl⟩, ?_⟩
    by_cases link : step.2.next = some x
    · exact ⟨_, by simp [linkReport, link], .unknownNext link absent⟩
    · refine ⟨_, ?_, .unknownLater trail.reaches link absent⟩
      rw [linkReport]
      split
      · rfl
      · rename_i next hnext
        have hne : x ≠ next := fun heq => link (by rw [hnext, heq])
        simp [hne]
  | back trail _ seen =>
    refine .inr ⟨⟨_, rfl⟩, _, ?_, .cycle trail.reaches (trail.reaches_of_mem seen)⟩
    rw [linkReport]
    split <;> simp

/-- A table has no problems exactly if every entry has an identifier that is not blank, none of its
own and a chain.  Otherwise each entry adds its own part, in the order of the identifiers: what is
wrong with its identifier, with the entry, and at last with its link, which is one problem if the
chain fails and none if it does not. -/
theorem validate_reports (table : Table) :
    (table.validate = [] ↔ ∀ step ∈ table.entries, Text.isBlankText step.1 = false ∧
      step.2.problems = [] ∧ ∃ steps, table.chain step.1 = .ok steps) ∧
    table.ids.Pairwise (· < ·) ∧
    (table.validate = table.entries.flatMap fun step =>
      identifierReport step ++ ownReport step ++ linkReport step (table.chain step.1)) ∧
    ∀ step ∈ table.entries,
      ((∃ steps, table.chain step.1 = .ok steps) ∧ linkReport step (table.chain step.1) = []) ∨
      ((∃ e, table.chain step.1 = .error e) ∧ ∃ problem,
        linkReport step (table.chain step.1) = [problem] ∧ LinkFailure table step problem) := by
  refine ⟨⟨fun hvalid step hstep => ?_, fun h => ?_⟩, ?_, validate_eq_flatMap table,
    fun step _ => linkReport_cases table step⟩
  · have hown := entryProblems_eq_nil hvalid hstep
    have hblank : identifierReport step = [] :=
      (List.append_eq_nil_iff.mp (List.append_eq_nil_iff.mp hown).1).1
    obtain ⟨steps, hwalk⟩ := exists_walk hvalid (List.mem_map_of_mem hstep)
    refine ⟨?_, problems_eq_nil hvalid hstep, steps, chain_eq_ok_iff.mpr hwalk⟩
    by_contra hnot
    rw [identifierReport, if_pos (by simpa using hnot)] at hblank
    cases hblank
  · rw [validate_eq_flatMap, List.flatMap_eq_nil_iff]
    intro step hstep
    obtain ⟨hblank, hown, steps, hchain⟩ := h step hstep
    simp [identifierReport, ownReport, linkReport, hblank, hown, hchain]
  · exact List.pairwise_map.mpr table.sorted

end Stimulus.Table
