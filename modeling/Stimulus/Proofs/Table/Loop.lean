import Stimulus.Proofs.Table.Chain

/-! The loop behind a chain.  `Loop` runs it without a bound, one look-up after the other, and
`Trail` is what it leaves behind: the steps from where it started.  The bound of a chain is never
what ends it, so a chain ends as the loop does, and it succeeds with exactly the steps of a walk. -/

namespace Stimulus.Table

open Relation (ReflTransGen TransGen)

/-- The loop at `id`, with the steps passed since `start`.  After so many more look-ups it ends with
`result`. -/
inductive Loop (table : Table) (start : String) :
    List Step → String → Nat → Except Error (List Step) → Prop
  | unknown {passed : List Step} {id : String} (absent : table.get? id = none) :
      Loop table start passed id 1 (.error (.unknownTestCase id))
  | back {passed : List Step} {id : String} {descriptor : Descriptor}
      (entry : table.get? id = some descriptor) (seen : id ∈ passed.map (·.1)) :
      Loop table start passed id 1
        (.error (.invalidDescriptor start (LinkProblem.loopsBack id).message))
  | last {passed : List Step} {id : String} {descriptor : Descriptor}
      (entry : table.get? id = some descriptor) (unseen : id ∉ passed.map (·.1))
      (stop : descriptor.next = none) :
      Loop table start passed id 1 (.ok (passed ++ [(id, descriptor)]))
  | onward {passed : List Step} {id next : String} {descriptor : Descriptor} {lookups : Nat}
      {result : Except Error (List Step)}
      (entry : table.get? id = some descriptor) (unseen : id ∉ passed.map (·.1))
      (link : descriptor.next = some next)
      (rest : Loop table start (passed ++ [(id, descriptor)]) next lookups result) :
      Loop table start passed id (lookups + 1) result

/-- The steps passed on the way from `start` to an identifier. -/
inductive Trail (table : Table) (start : String) : List Step → String → Prop
  | start : Trail table start [] start
  | onward {passed : List Step} {id next : String} {descriptor : Descriptor}
      (trail : Trail table start passed id) (entry : table.get? id = some descriptor)
      (link : descriptor.next = some next) : Trail table start (passed ++ [(id, descriptor)]) next

variable {table : Table} {start id x y : String} {passed steps : List Step} {lookups : Nat}
  {result : Except Error (List Step)}

/-! ### The bound -/

section

variable {fuel : Nat} {seen : List String} {descriptor : Descriptor}

theorem walk_of_absent (absent : table.get? id = none) :
    table.walk start (fuel + 1) seen id = .error (.unknownTestCase id) := by
  simp [walk, absent]

theorem walk_of_seen (entry : table.get? id = some descriptor) (hseen : id ∈ seen) :
    table.walk start (fuel + 1) seen id =
      .error (.invalidDescriptor start (LinkProblem.loopsBack id).message) := by
  simp [walk, entry, hseen]

theorem walk_of_last (entry : table.get? id = some descriptor) (unseen : id ∉ seen)
    (stop : descriptor.next = none) :
    table.walk start (fuel + 1) seen id = .ok [(id, descriptor)] := by
  simp [walk, entry, unseen, stop]

theorem walk_of_link {next : String} (entry : table.get? id = some descriptor)
    (unseen : id ∉ seen) (link : descriptor.next = some next) :
    table.walk start (fuel + 1) seen id =
      (table.walk start fuel (id :: seen) next).map ((id, descriptor) :: ·) := by
  simp only [walk, entry, link, List.contains_iff_mem, unseen, if_false]
  rfl

end

theorem nodup_concat {descriptor : Descriptor} (hdistinct : (passed.map (·.1)).Nodup)
    (hunseen : id ∉ passed.map (·.1)) : ((passed ++ [(id, descriptor)]).map (·.1)).Nodup := by
  simpa using List.Nodup.concat hunseen hdistinct

/-- With fuel for the entries that are not passed yet, a walk is the loop. -/
theorem exists_loop_walk {fuel : Nat} {seen : List String}
    (hseen : ∀ x, x ∈ seen ↔ x ∈ passed.map (·.1))
    (hentries : ∀ step ∈ passed, table.get? step.1 = some step.2)
    (hdistinct : (passed.map (·.1)).Nodup) (hfuel : table.size < passed.length + fuel) :
    ∃ lookups ≤ fuel, Loop table start passed id lookups
      ((table.walk start fuel seen id).map (passed ++ ·)) := by
  induction fuel generalizing passed seen id with
  | zero =>
    -- The table would have fewer entries than were passed.
    have hlength := length_le_size_of_nodup hentries hdistinct
    omega
  | succ fuel ih =>
    have hpositive : 1 ≤ fuel + 1 := by omega
    cases entry : table.get? id with
    | none =>
      rw [walk_of_absent entry]
      exact ⟨1, hpositive, .unknown entry⟩
    | some descriptor =>
      by_cases hid : id ∈ seen
      · rw [walk_of_seen entry hid]
        exact ⟨1, hpositive, .back entry ((hseen id).mp hid)⟩
      · have hunseen : id ∉ passed.map (·.1) := fun h => hid ((hseen id).mpr h)
        cases link : descriptor.next with
        | none =>
          rw [walk_of_last entry hid link]
          exact ⟨1, hpositive, .last entry hunseen link⟩
        | some next =>
          have hseen : ∀ x, x ∈ id :: seen ↔ x ∈ (passed ++ [(id, descriptor)]).map (·.1) := by
            intro x
            simp [hseen, or_comm]
          have hentries : ∀ step ∈ passed ++ [(id, descriptor)],
              table.get? step.1 = some step.2 := by
            intro step hstep
            rcases List.mem_append.mp hstep with hstep | hstep
            · exact hentries step hstep
            · rw [List.mem_singleton.mp hstep]
              exact entry
          have hfuel : table.size < (passed ++ [(id, descriptor)]).length + fuel := by
            rw [List.length_append, List.length_singleton]
            omega
          obtain ⟨lookups, hlookups, hrest⟩ :=
            @ih next _ _ hseen hentries (nodup_concat hdistinct hunseen) hfuel
          refine ⟨lookups + 1, by omega, .onward entry hunseen link ?_⟩
          rw [walk_of_link entry hid link]
          cases hwalk : table.walk start fuel (id :: seen) next <;>
            simpa [hwalk, Except.map] using hrest

theorem exists_loop_chain (table : Table) (id : String) :
    ∃ lookups ≤ table.size + 1, Loop table id [] id lookups (table.chain id) := by
  have hloop : ∃ lookups ≤ table.size + 1, Loop table id [] id lookups
      ((table.walk id (table.size + 1) [] id).map ([] ++ ·)) :=
    exists_loop_walk (by simp) (by simp) (by simp) (by simp)
  rw [chain]
  cases hwalk : table.walk id (table.size + 1) [] id <;> simpa [hwalk, Except.map] using hloop

theorem Loop.unique {lookups' : Nat} {result' : Except Error (List Step)}
    (loop : Loop table start passed id lookups result)
    (loop' : Loop table start passed id lookups' result') :
    lookups' = lookups ∧ result' = result := by
  induction loop generalizing lookups' result' with
  | unknown absent => cases loop' <;> simp_all
  | back entry seen => cases loop' <;> simp_all
  | last entry unseen stop => cases loop' <;> simp_all
  | onward entry unseen link _ ih =>
    cases loop' with
    | unknown absent => rw [entry] at absent; cases absent
    | back _ seen => exact absurd seen unseen
    | last entry' _ stop =>
      rw [← Option.some.inj (entry.symm.trans entry'), link] at stop
      cases stop
    | onward entry' _ link' rest' =>
      obtain rfl := Option.some.inj (entry.symm.trans entry')
      obtain rfl := Option.some.inj (link.symm.trans link')
      obtain ⟨rfl, rfl⟩ := ih rest'
      exact ⟨rfl, rfl⟩

/-! ### Trails -/

namespace Trail

theorem reaches (trail : Trail table start passed id) : ReflTransGen table.Links start id := by
  induction trail with
  | start => exact .refl
  | onward _ entry link ih => exact ih.tail ⟨_, entry, link⟩

/-- Whatever a trail has passed leads to where it is. -/
theorem reaches_of_mem (trail : Trail table start passed id) (hx : x ∈ passed.map (·.1)) :
    TransGen table.Links x id := by
  induction trail with
  | start => cases hx
  | @onward passed id next descriptor _ entry link ih =>
    have hlinks : table.Links id next := ⟨_, entry, link⟩
    rw [List.map_append, List.mem_append] at hx
    rcases hx with hx | hx
    · exact (ih hx).tail hlinks
    · obtain rfl : x = id := by simpa using hx
      exact .single hlinks

/-- A loop that ends from where a trail leads to has taken that trail. -/
theorem loop (trail : Trail table start passed id) (hdistinct : (passed.map (·.1)).Nodup)
    (hloop : Loop table start passed id lookups result) :
    ∃ lookups, Loop table start [] start lookups result := by
  induction trail generalizing lookups with
  | start => exact ⟨lookups, hloop⟩
  | @onward passed id next descriptor _ entry link ih =>
    rw [List.map_append, List.nodup_append] at hdistinct
    obtain ⟨hdistinct, -, hunseen⟩ := hdistinct
    have hunseen : id ∉ passed.map (·.1) := fun h => hunseen id h id (by simp) rfl
    exact ih hdistinct (.onward entry hunseen link hloop)

end Trail

/-- How a loop ends, `passed` being its trail so far. -/
inductive Ending (table : Table) (start : String) : Except Error (List Step) → Prop
  | last {passed : List Step} {id : String} {descriptor : Descriptor}
      (trail : Trail table start passed id) (entry : table.get? id = some descriptor)
      (stop : descriptor.next = none) : Ending table start (.ok (passed ++ [(id, descriptor)]))
  | unknown {passed : List Step} {id : String} (trail : Trail table start passed id)
      (absent : table.get? id = none) : Ending table start (.error (.unknownTestCase id))
  | back {passed : List Step} {id : String} (trail : Trail table start passed id)
      (distinct : (passed.map (·.1)).Nodup) (seen : id ∈ passed.map (·.1)) :
      Ending table start
        (.error (.invalidDescriptor start (LinkProblem.loopsBack id).message))

theorem Loop.ending (loop : Loop table start passed id lookups result)
    (trail : Trail table start passed id) (hdistinct : (passed.map (·.1)).Nodup) :
    Ending table start result := by
  induction loop with
  | unknown absent => exact .unknown trail absent
  | back _ seen => exact .back trail hdistinct seen
  | last entry _ stop => exact .last trail entry stop
  | onward entry unseen link _ ih =>
    exact ih (trail.onward entry link) (nodup_concat hdistinct unseen)

theorem ending_chain (table : Table) (id : String) : Ending table id (table.chain id) := by
  obtain ⟨_, -, hloop⟩ := exists_loop_chain table id
  exact hloop.ending .start (by simp)

/-! ### Chains -/

/-- A loop that succeeds has walked along the links. -/
theorem Loop.exists_walk (loop : Loop table start passed id lookups (.ok steps)) :
    ∃ rest, Walk table id rest ∧ steps = passed ++ rest := by
  generalize hsteps : Except.ok steps = result at loop
  induction loop with
  | unknown | back => cases hsteps
  | last entry _ stop =>
    obtain rfl := Except.ok.inj hsteps
    exact ⟨_, .last entry stop, rfl⟩
  | onward entry _ link _ ih =>
    obtain ⟨rest, hrest, rfl⟩ := ih hsteps
    exact ⟨_, .link entry link hrest, by simp⟩

/-- A walk that passes nothing again is the rest of a loop. -/
theorem Walk.exists_loop (walk : Walk table id steps)
    (havoid : ∀ x ∈ passed.map (·.1), x ∉ steps.map (·.1)) :
    ∃ lookups, Loop table start passed id lookups (.ok (passed ++ steps)) := by
  induction walk generalizing passed with
  | last entry stop => exact ⟨1, .last entry (fun h => havoid _ h (by simp)) stop⟩
  | @link id next descriptor steps entry onward rest ih =>
    have hid : id ∉ steps.map (·.1) :=
      (List.nodup_cons.mp (Walk.link entry onward rest).nodup).1
    have havoid' : ∀ x ∈ (passed ++ [(id, descriptor)]).map (·.1), x ∉ steps.map (·.1) := by
      intro x hx
      rw [List.map_append, List.mem_append] at hx
      rcases hx with hx | hx
      · exact fun hmem => havoid x hx (.tail _ hmem)
      · obtain rfl : x = id := by simpa using hx
        exact hid
    obtain ⟨lookups, hloop⟩ := ih havoid'
    exact ⟨_, .onward entry (fun h => havoid _ h (.head _)) onward (by simpa using hloop)⟩

/-- A chain succeeds with the steps of the walk from its identifier. -/
theorem chain_eq_ok_iff : table.chain id = .ok steps ↔ Walk table id steps := by
  obtain ⟨_, -, hchain⟩ := exists_loop_chain table id
  constructor
  · intro h
    rw [h] at hchain
    obtain ⟨rest, hwalk, rfl⟩ := hchain.exists_walk
    exact hwalk
  · intro hwalk
    obtain ⟨_, hloop⟩ : ∃ lookups, Loop table id [] id lookups (.ok ([] ++ steps)) :=
      hwalk.exists_loop (by simp)
    exact (hloop.unique hchain).2

/-- A chain fails where the table has no entry, or because it comes back to one it has passed. -/
theorem eq_of_chain_eq_error {e : Error} (h : table.chain id = .error e) :
    (∃ x, e = .unknownTestCase x) ∨
      ∃ x, e = .invalidDescriptor id (LinkProblem.loopsBack x).message := by
  have hending := ending_chain table id
  rw [h] at hending
  cases hending with
  | unknown => exact .inl ⟨_, rfl⟩
  | back => exact .inr ⟨_, rfl⟩

end Stimulus.Table
