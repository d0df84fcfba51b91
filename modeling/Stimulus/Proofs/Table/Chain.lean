import Mathlib.Data.List.Perm.Subperm
import Mathlib.Logic.Relation
import Stimulus.Proofs.Keyed
import Stimulus.Table.Basic

/-! Walks along the links of a table.  `Walk` follows the links to an entry that has none, without
counting anything.  It passes every identifier that the links reach, and none of them twice, so its
length is at most the size of the table. -/

namespace Stimulus.Table

variable {table : Table}

/-- Entries of a table, no two with the same identifier, are at most as many as the table has. -/
theorem length_le_size_of_nodup {steps : List Step}
    (hentries : ∀ step ∈ steps, table.get? step.1 = some step.2)
    (hdistinct : (steps.map (·.1)).Nodup) : steps.length ≤ table.size := by
  have hsub : steps.map (·.1) ⊆ table.ids := by
    intro x hx
    obtain ⟨step, hstep, rfl⟩ := List.mem_map.mp hx
    exact List.mem_map_of_mem (f := (·.1)) (Keyed.mem_of_get? (hentries step hstep))
  simpa [size, ids] using (List.subperm_of_subset hdistinct hsub).length_le

/-- The steps from an identifier along the links, up to an entry that has none. -/
inductive Walk (table : Table) : String → List Step → Prop
  | last {id : String} {descriptor : Descriptor} (entry : table.get? id = some descriptor)
      (stop : descriptor.next = none) : Walk table id [(id, descriptor)]
  | link {id next : String} {descriptor : Descriptor} {steps : List Step}
      (entry : table.get? id = some descriptor) (onward : descriptor.next = some next)
      (rest : Walk table next steps) : Walk table id ((id, descriptor) :: steps)

namespace Walk

variable {id x : String} {steps steps' : List Step}

theorem head_mem (walk : Walk table id steps) : id ∈ steps.map (·.1) := by
  cases walk <;> simp

theorem get?_of_mem {step : Step} (walk : Walk table id steps) (h : step ∈ steps) :
    table.get? step.1 = some step.2 := by
  induction walk with
  | last entry _ =>
    obtain rfl := List.mem_singleton.mp h
    exact entry
  | link entry _ _ ih =>
    rcases List.mem_cons.mp h with rfl | h
    · exact entry
    · exact ih h

theorem unique (walk : Walk table id steps) (walk' : Walk table id steps') : steps = steps' := by
  induction walk generalizing steps' with
  | last entry stop =>
    cases walk' with
    | last entry' _ => rw [Option.some.inj (entry.symm.trans entry')]
    | link entry' onward' _ =>
      rw [← Option.some.inj (entry.symm.trans entry'), stop] at onward'
      cases onward'
  | link entry onward _ ih =>
    cases walk' with
    | last entry' stop' =>
      rw [← Option.some.inj (entry.symm.trans entry'), onward] at stop'
      cases stop'
    | link entry' onward' rest' =>
      obtain rfl := Option.some.inj (entry.symm.trans entry')
      obtain rfl := Option.some.inj (onward.symm.trans onward')
      rw [ih rest']

/-- Every identifier of a walk starts a walk that is no longer. -/
theorem exists_walk_of_mem (walk : Walk table id steps) (h : x ∈ steps.map (·.1)) :
    ∃ tail, Walk table x tail ∧ tail.length ≤ steps.length := by
  induction walk with
  | last entry stop =>
    obtain rfl : x = _ := by simpa using h
    exact ⟨_, .last entry stop, Nat.le_refl _⟩
  | link entry onward rest ih =>
    rcases List.mem_cons.mp h with rfl | h
    · exact ⟨_, .link entry onward rest, Nat.le_refl _⟩
    · obtain ⟨tail, htail, hlength⟩ := ih h
      exact ⟨tail, htail, by simp; omega⟩

theorem nodup (walk : Walk table id steps) : (steps.map (·.1)).Nodup := by
  induction walk with
  | last _ _ => simp
  | link entry onward rest ih =>
    refine List.nodup_cons.mpr ⟨fun hmem => ?_, ih⟩
    -- A second visit would start the same walk again, with fewer steps.
    obtain ⟨tail, htail, hlength⟩ := rest.exists_walk_of_mem hmem
    obtain rfl := htail.unique (.link entry onward rest)
    exact Nat.not_succ_le_self _ hlength

theorem length_le_size (walk : Walk table id steps) : steps.length ≤ table.size :=
  length_le_size_of_nodup (fun _ => walk.get?_of_mem) walk.nodup

end Walk

/-! ### Reachable entries -/

/-- An entry of the table names another identifier as the one to follow. -/
def Links (table : Table) (id next : String) : Prop :=
  ∃ descriptor, table.get? id = some descriptor ∧ descriptor.next = some next

namespace Walk

variable {id x y : String} {steps : List Step}

theorem mem_of_links (walk : Walk table id steps) (hx : x ∈ steps.map (·.1))
    (hlinks : table.Links x y) : y ∈ steps.map (·.1) := by
  obtain ⟨descriptor, hentry, hnext⟩ := hlinks
  induction walk with
  | last entry stop =>
    obtain rfl : x = _ := by simpa using hx
    rw [← Option.some.inj (entry.symm.trans hentry), stop] at hnext
    cases hnext
  | link entry onward rest ih =>
    rcases List.mem_cons.mp hx with rfl | hx
    · obtain rfl := Option.some.inj (entry.symm.trans hentry)
      obtain rfl := Option.some.inj (onward.symm.trans hnext)
      exact .tail _ rest.head_mem
    · exact .tail _ (ih hx)

/-- A walk passes exactly the identifiers that can be reached along the links. -/
theorem mem_iff_reachable (walk : Walk table id steps) :
    x ∈ steps.map (·.1) ↔ Relation.ReflTransGen table.Links id x := by
  constructor
  · intro hx
    induction walk with
    | last entry stop =>
      obtain rfl : x = _ := by simpa using hx
      exact .refl
    | link entry onward rest ih =>
      rcases List.mem_cons.mp hx with rfl | hx
      · exact .refl
      · exact .head ⟨_, entry, onward⟩ (ih hx)
  · intro hreach
    induction hreach with
    | refl => exact walk.head_mem
    | tail _ hlinks ih => exact walk.mem_of_links ih hlinks

end Walk

end Stimulus.Table
