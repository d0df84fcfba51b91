import Stimulus.Proofs.Table.Loop

/-! The ends of a chain.  It ends well where the links lead to an entry that has none, and fails
where they lead out of the table or into a cycle.  These exclude each other, since each entry has
one link at most. -/

namespace Stimulus.Table

open Relation (ReflTransGen TransGen)

variable {table : Table} {id x y : String} {steps : List Step}

/-! ### Where the links end -/

theorem links_rightUnique (table : Table) : Relator.RightUnique table.Links := by
  rintro x y z ⟨descriptor, entry, link⟩ ⟨descriptor', entry', link'⟩
  obtain rfl := Option.some.inj (entry.symm.trans entry')
  exact Option.some.inj (link.symm.trans link')

/-- Nothing follows an identifier: its entry has no link, or there is none. -/
def DeadEnd (table : Table) (id : String) : Prop :=
  ∀ next, ¬table.Links id next

theorem deadEnd_of_next {descriptor : Descriptor} (entry : table.get? id = some descriptor)
    (stop : descriptor.next = none) : table.DeadEnd id := by
  rintro next ⟨descriptor', entry', link⟩
  rw [← Option.some.inj (entry.symm.trans entry'), stop] at link
  cases link

theorem deadEnd_of_absent (absent : table.get? id = none) : table.DeadEnd id := by
  rintro next ⟨descriptor, entry, -⟩
  rw [absent] at entry
  cases entry

theorem DeadEnd.eq_of_reaches (hx : table.DeadEnd x) (hreach : ReflTransGen table.Links x y) :
    x = y := by
  rcases hreach.cases_head with heq | ⟨next, hlinks, -⟩
  · exact heq
  · exact absurd hlinks (hx next)

/-- The links lead to one dead end at most. -/
theorem DeadEnd.unique (hx : table.DeadEnd x) (hy : table.DeadEnd y)
    (hidx : ReflTransGen table.Links id x) (hidy : ReflTransGen table.Links id y) : x = y := by
  rcases ReflTransGen.total_of_right_unique table.links_rightUnique hidx hidy with h | h
  · exact hx.eq_of_reaches h
  · exact (hy.eq_of_reaches h).symm

theorem cycle_of_reaches (hcycle : TransGen table.Links x x)
    (hreach : ReflTransGen table.Links x y) : TransGen table.Links y y := by
  induction hreach with
  | refl => exact hcycle
  | tail _ hlinks ih =>
    obtain ⟨next, hnext, hback⟩ := TransGen.head'_iff.mp ih
    obtain rfl := table.links_rightUnique hlinks hnext
    exact .tail' hback hlinks

/-- Links that lead to a dead end lead to no cycle. -/
theorem DeadEnd.not_cycle (hx : table.DeadEnd x) (hidx : ReflTransGen table.Links id x)
    (hidy : ReflTransGen table.Links id y) : ¬TransGen table.Links y y := by
  intro hcycle
  have hcycle : TransGen table.Links x x := by
    rcases ReflTransGen.total_of_right_unique table.links_rightUnique hidx hidy with h | h
    · rwa [hx.eq_of_reaches h]
    · exact cycle_of_reaches hcycle h
  obtain ⟨next, hlinks, -⟩ := TransGen.head'_iff.mp hcycle
  exact hx next hlinks

/-! ### Routes -/

/-- The steps go from an identifier along the links, each with the entry of its identifier, to one
that has no link. -/
structure Route (table : Table) (id : String) (steps : List Step) : Prop where
  starts : steps.head?.map (·.1) = some id
  entries : ∀ step ∈ steps, table.get? step.1 = some step.2
  linked : steps.IsChain fun step following => step.2.next = some following.1
  stops : ∀ last ∈ steps.getLast?, last.2.next = none

theorem Walk.route (walk : Walk table id steps) : Route table id steps := by
  have hentries : ∀ step ∈ steps, table.get? step.1 = some step.2 := fun _ => walk.get?_of_mem
  induction walk with
  | last _ stop => exact ⟨rfl, hentries, .singleton _, by simpa using stop⟩
  | @link id next descriptor steps _ onward rest ih =>
    have hrest := ih fun step hstep => hentries step (.tail _ hstep)
    cases steps with
    | nil => cases hrest.starts
    | cons following steps =>
      have hfollowing : following.1 = next := by simpa using hrest.starts
      refine ⟨rfl, hentries, .cons_cons (by rw [onward, hfollowing]) hrest.linked, ?_⟩
      simpa using hrest.stops

theorem Route.walk (route : Route table id steps) : Walk table id steps := by
  induction steps generalizing id with
  | nil => cases route.starts
  | cons step steps ih =>
    obtain ⟨first, descriptor⟩ := step
    obtain rfl : first = id := by simpa using route.starts
    have entry := route.entries _ (.head _)
    cases steps with
    | nil => exact .last entry (route.stops _ rfl)
    | cons following steps =>
      obtain ⟨hlink, hlinked⟩ := List.isChain_cons_cons.mp route.linked
      refine .link entry hlink (ih ⟨rfl, fun step hstep => ?_, hlinked, ?_⟩)
      · exact route.entries step (.tail _ hstep)
      · simpa using route.stops

theorem walk_iff_route : Walk table id steps ↔ Route table id steps :=
  ⟨Walk.route, Route.walk⟩

/-! ### The ends of a chain -/

theorem exists_chain_eq_ok_iff : (∃ steps, table.chain id = .ok steps) ↔
    ∃ x descriptor, ReflTransGen table.Links id x ∧ table.get? x = some descriptor ∧
      descriptor.next = none := by
  have hending := ending_chain table id
  constructor
  · rintro ⟨steps, hchain⟩
    rw [hchain] at hending
    cases hending with
    | last trail entry stop => exact ⟨_, _, trail.reaches, entry, stop⟩
  · rintro ⟨x, descriptor, hx, entry, stop⟩
    have hdead := deadEnd_of_next entry stop
    cases hchain : table.chain id with
    | ok steps => exact ⟨steps, rfl⟩
    | error e =>
      rw [hchain] at hending
      cases hending with
      | unknown trail absent =>
        obtain rfl := hdead.unique (deadEnd_of_absent absent) hx trail.reaches
        rw [entry] at absent
        cases absent
      | back trail _ seen =>
        exact absurd (trail.reaches_of_mem seen) (hdead.not_cycle hx trail.reaches)

theorem chain_eq_unknown_iff : table.chain id = .error (.unknownTestCase x) ↔
    ReflTransGen table.Links id x ∧ table.get? x = none := by
  have hending := ending_chain table id
  constructor
  · intro hchain
    rw [hchain] at hending
    cases hending with
    | unknown trail absent => exact ⟨trail.reaches, absent⟩
  · rintro ⟨hx, habsent⟩
    have hdead := deadEnd_of_absent habsent
    generalize table.chain id = result at hending ⊢
    cases hending with
    | last trail entry stop =>
      obtain rfl := hdead.unique (deadEnd_of_next entry stop) hx trail.reaches
      rw [habsent] at entry
      cases entry
    | unknown trail absent =>
      rw [hdead.unique (deadEnd_of_absent absent) hx trail.reaches]
    | back trail _ seen =>
      exact absurd (trail.reaches_of_mem seen) (hdead.not_cycle hx trail.reaches)

theorem loopsBack_message_inj
    (h : (LinkProblem.loopsBack x).message = (LinkProblem.loopsBack y).message) : x = y :=
  (String.append_right_inj _).mp h

theorem chain_eq_loopsBack_iff :
    table.chain id = .error (.invalidDescriptor id (LinkProblem.loopsBack x).message) ↔
      ∃ passed, Trail table id passed x ∧ (passed.map (·.1)).Nodup ∧ x ∈ passed.map (·.1) := by
  constructor
  · intro hchain
    have hending := ending_chain table id
    rw [hchain] at hending
    generalize hmessage : (LinkProblem.loopsBack x).message = message at hending
    cases hending with
    | back trail distinct seen =>
      obtain rfl := loopsBack_message_inj hmessage
      exact ⟨_, trail, distinct, seen⟩
  · rintro ⟨passed, trail, hdistinct, hseen⟩
    -- What the trail has passed has an entry, so the loop stops at its end.
    obtain ⟨next, ⟨descriptor, entry, -⟩, -⟩ :=
      TransGen.head'_iff.mp (trail.reaches_of_mem hseen)
    obtain ⟨_, hloop⟩ := trail.loop hdistinct (.back entry hseen)
    obtain ⟨_, -, hchain⟩ := exists_loop_chain table id
    exact (hloop.unique hchain).2

theorem exists_chain_eq_invalid_iff :
    (∃ start reason, table.chain id = .error (.invalidDescriptor start reason)) ↔
      ∃ x, ReflTransGen table.Links id x ∧ TransGen table.Links x x := by
  have hending := ending_chain table id
  constructor
  · rintro ⟨start, reason, hchain⟩
    rw [hchain] at hending
    cases hending with
    | back trail _ seen => exact ⟨_, trail.reaches, trail.reaches_of_mem seen⟩
  · rintro ⟨x, hx, hcycle⟩
    generalize table.chain id = result at hending ⊢
    cases hending with
    | last trail entry stop =>
      exact absurd hcycle ((deadEnd_of_next entry stop).not_cycle trail.reaches hx)
    | unknown trail absent =>
      exact absurd hcycle ((deadEnd_of_absent absent).not_cycle trail.reaches hx)
    | back => exact ⟨_, _, rfl⟩

/-- A chain takes at most one look-up more than the table has entries, and its end is that of the
walk along the links: the steps of the walk if it comes to an entry without a link, the first
identifier that the table does not have if it comes to one, and the first one it comes to a second
time if it enters a cycle. -/
theorem chain_ends (table : Table) (id : String) :
    (∃ lookups ≤ table.size + 1, Loop table id [] id lookups (table.chain id) ∧
      ∀ lookups' result, Loop table id [] id lookups' result →
        lookups' = lookups ∧ result = table.chain id) ∧
    (∀ steps, table.chain id = .ok steps ↔ Route table id steps) ∧
    (∀ steps, table.chain id = .ok steps → (steps.map (·.1)).Nodup) ∧
    ((∃ steps, table.chain id = .ok steps) ↔
      ∃ x descriptor, ReflTransGen table.Links id x ∧ table.get? x = some descriptor ∧
        descriptor.next = none) ∧
    (∀ x, table.chain id = .error (.unknownTestCase x) ↔
      ReflTransGen table.Links id x ∧ table.get? x = none) ∧
    (∀ x, table.chain id = .error (.invalidDescriptor id (LinkProblem.loopsBack x).message) ↔
      ∃ passed, Trail table id passed x ∧ (passed.map (·.1)).Nodup ∧ x ∈ passed.map (·.1)) ∧
    ((∃ start reason, table.chain id = .error (.invalidDescriptor start reason)) ↔
      ∃ x, ReflTransGen table.Links id x ∧ TransGen table.Links x x) ∧
    (∀ e, table.chain id = .error e →
      (∃ x, e = .unknownTestCase x) ∨
        ∃ x, e = .invalidDescriptor id (LinkProblem.loopsBack x).message) := by
  refine ⟨?_, fun steps => ?_, fun steps hchain => ?_, exists_chain_eq_ok_iff,
    fun x => chain_eq_unknown_iff, fun x => chain_eq_loopsBack_iff, exists_chain_eq_invalid_iff,
    fun e => eq_of_chain_eq_error⟩
  · obtain ⟨lookups, hlookups, hloop⟩ := exists_loop_chain table id
    exact ⟨lookups, hlookups, hloop, fun lookups' result => hloop.unique⟩
  · rw [chain_eq_ok_iff, walk_iff_route]
  · exact (chain_eq_ok_iff.mp hchain).nodup

end Stimulus.Table
