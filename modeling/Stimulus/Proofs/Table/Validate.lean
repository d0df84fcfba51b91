import Stimulus.Proofs.Table.Loop

/-! What a table without problems promises: every identifier has a chain, and every entry on it
sends the payload that it declares. -/

namespace Stimulus

/-- An entry without problems keeps its payload: its method carries one if it has one. -/
theorem Descriptor.body_eq_payload {descriptor : Descriptor} (h : descriptor.problems = []) :
    descriptor.body = descriptor.payload := by
  obtain ⟨-, hpayload⟩ := List.append_eq_nil_iff.mp h
  rw [body]
  cases hcarries : descriptor.method.carriesBody with
  | true => rfl
  | false =>
    cases hgiven : descriptor.payload with
    | none => rfl
    | some payload => simp [hcarries, hgiven] at hpayload

namespace Table

variable {table : Table} {id : String} {step : Step} {steps : List Step}

theorem entryProblems_eq_nil (hvalid : table.validate = []) (hstep : step ∈ table.entries) :
    table.entryProblems step = [] :=
  List.flatMap_eq_nil_iff.mp hvalid step hstep

theorem linkProblem?_eq_none (hvalid : table.validate = []) (hstep : step ∈ table.entries) :
    table.linkProblem? step.1 step.2 = none := by
  obtain ⟨-, hlink⟩ := List.append_eq_nil_iff.mp (entryProblems_eq_nil hvalid hstep)
  simpa using hlink

theorem problems_eq_nil (hvalid : table.validate = []) (hstep : step ∈ table.entries) :
    step.2.problems = [] := by
  obtain ⟨hown, -⟩ := List.append_eq_nil_iff.mp (entryProblems_eq_nil hvalid hstep)
  obtain ⟨-, hproblems⟩ := List.append_eq_nil_iff.mp hown
  exact List.map_eq_nil_iff.mp hproblems

/-- Links that lead out of the table or into a cycle are problems, so every identifier of a table
without problems has a chain. -/
theorem exists_walk (hvalid : table.validate = []) (hid : id ∈ table.ids) :
    ∃ steps, Walk table id steps := by
  obtain ⟨descriptor, hentry⟩ := Keyed.exists_get?_of_mem hid
  have hlink := linkProblem?_eq_none hvalid (Keyed.mem_of_get? hentry)
  cases hnext : descriptor.next with
  | none => exact ⟨_, .last hentry hnext⟩
  | some next =>
    simp only [linkProblem?, hnext] at hlink
    split at hlink
    · cases hlink
    · split at hlink
      · exact ⟨_, chain_eq_ok_iff.mp ‹_›⟩
      · cases hlink

theorem Walk.body_eq_payload (walk : Walk table id steps) (hvalid : table.validate = [])
    (hstep : step ∈ steps) : step.2.body = step.2.payload :=
  Descriptor.body_eq_payload
    (problems_eq_nil hvalid (Keyed.mem_of_get? (walk.get?_of_mem hstep)))

end Table

end Stimulus
