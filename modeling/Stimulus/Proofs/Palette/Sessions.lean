import Stimulus.Proofs.Exchange.Alike
import Stimulus.Proofs.Palette.Replies

/-! Sessions without an escape.  Whatever a table or a session of two phases hands on to the
transcript is a text of the table, a text of a reply, or one that the program makes itself, so it has
no escape if the table and the replies have none. -/

namespace Stimulus

open Palette (Clear)
open Session (Keeps)

/-! ### Tables -/

/-- A table without an escape in its name or in what its entries say of themselves. -/
structure Table.IsClear (table : Table) : Prop where
  name : Clear table.name
  entries : ∀ step ∈ table.entries, Step.IsClear step

instance (table : Table) : Decidable table.IsClear :=
  decidable_of_iff (Clear table.name ∧ ∀ step ∈ table.entries, Step.IsClear step)
    ⟨fun h => ⟨h.1, h.2⟩, fun h => ⟨h.name, h.entries⟩⟩

/-- A failure whose message has no escape. -/
def Error.IsClear (e : Error) : Prop :=
  Clear e.message

theorem Error.isClear_invalidDescriptor {id reason : String} (hid : Clear id)
    (hreason : Clear reason) : (invalidDescriptor id reason).IsClear := by
  show Clear ("Invalid test case '" ++ id ++ "': " ++ reason)
  simp +decide [hid, hreason]

theorem Error.isClear_unknownTestCase {id : String} (hid : Clear id) :
    (unknownTestCase id).IsClear := by
  show Clear ("unknown test case " ++ id)
  simp +decide [hid]

/-- What is wrong with an entry on its own repeats no more than its path. -/
theorem Descriptor.clear_of_mem_problems {descriptor : Descriptor} (hpath : Clear descriptor.path)
    {problem : Problem} (h : problem ∈ descriptor.problems) : Clear problem.message := by
  have hblank : Clear ("resource path '" ++ descriptor.path ++ "' contains whitespace") := by
    simp +decide [hpath]
  have hpayload : Clear (descriptor.method.name ++ " requests cannot carry a payload") := by
    simp +decide
  simp only [problems, List.mem_append] at h
  rcases h with (h | h) | h
  · split at h
    · rw [List.mem_singleton.mp h]
      decide
    · cases h
  · split at h
    · rw [List.mem_singleton.mp h]
      exact hblank
    · cases h
  · split at h
    · rw [List.mem_singleton.mp h]
      exact hpayload
    · cases h

namespace Table

variable {table : Table} {id : String}

theorem IsClear.of_get? (h : table.IsClear) {descriptor : Descriptor}
    (hget : table.get? id = some descriptor) : Step.IsClear (id, descriptor) :=
  h.entries _ (Keyed.mem_of_get? hget)

theorem clear_loopsBack (hid : Clear id) : Clear (LinkProblem.loopsBack id).message := by
  show Clear ("'then' chain loops back to " ++ id)
  simp +decide [hid]

theorem clear_unknownNext (hid : Clear id) : Clear (LinkProblem.unknownNext id).message := by
  show Clear ("'then' refers to unknown test case " ++ id)
  simp +decide [hid]

/-- Steps without an escape, or a failure without one. -/
def EndsClear (result : Except Error (List Step)) : Prop :=
  Ends (fun steps => ∀ step ∈ steps, Step.IsClear step) Error.IsClear result

theorem endsClear_walk (h : table.IsClear) {start : String} (hstart : Clear start) (fuel : Nat) :
    ∀ (seen : List String) (id : String), Clear id → EndsClear (table.walk start fuel seen id) := by
  induction fuel with
  | zero =>
    intro seen id hid
    exact Error.isClear_invalidDescriptor hstart (clear_loopsBack hid)
  | succ fuel ih =>
    intro seen id hid
    rw [walk]
    split
    · exact Error.isClear_unknownTestCase hid
    · rename_i descriptor hget
      have hstep := h.of_get? hget
      split
      · exact Error.isClear_invalidDescriptor hstart (clear_loopsBack hid)
      · split
        · exact List.forall_mem_singleton.mpr hstep
        · rename_i next hnext
          refine (ih (id :: seen) next (hstep.descriptor.next next hnext)).bind fun steps hsteps => ?_
          exact List.forall_mem_cons.mpr ⟨hstep, hsteps⟩

theorem endsClear_chain (h : table.IsClear) (hid : Clear id) : EndsClear (table.chain id) :=
  endsClear_walk h hid (table.size + 1) [] id hid

theorem isClear_of_linkProblem? (h : table.IsClear) {descriptor : Descriptor}
    (hstep : Step.IsClear (id, descriptor)) {e : Error}
    (he : table.linkProblem? id descriptor = some e) : e.IsClear := by
  rw [linkProblem?] at he
  split at he
  · cases he
  · rename_i next hnext
    split at he
    · cases he
      exact Error.isClear_invalidDescriptor hstep.id
        (clear_unknownNext (hstep.descriptor.next next hnext))
    · have hchain := endsClear_chain h hstep.id
      split at he
      · cases he
      · rename_i e' hresult
        cases he
        rwa [hresult] at hchain

theorem isClear_of_mem_entryProblems (h : table.IsClear) {step : Step} (hstep : Step.IsClear step)
    {e : Error} (he : e ∈ table.entryProblems step) : e.IsClear := by
  obtain ⟨id, descriptor⟩ := step
  have hid : Clear id := hstep.id
  simp only [entryProblems, List.mem_append, List.mem_map, Option.mem_toList] at he
  rcases he with (he | ⟨problem, hproblem, rfl⟩) | he
  · split at he
    · rw [List.mem_singleton.mp he]
      exact Error.isClear_invalidDescriptor hid (by decide)
    · cases he
  · exact Error.isClear_invalidDescriptor hid
      (Descriptor.clear_of_mem_problems hstep.descriptor.path hproblem)
  · exact isClear_of_linkProblem? h hstep he

theorem isClear_of_mem_validate (h : table.IsClear) {e : Error} (he : e ∈ table.validate) :
    e.IsClear := by
  obtain ⟨step, hstep, he⟩ := List.mem_flatMap.mp he
  exact isClear_of_mem_entryProblems h (h.entries step hstep) he

end Table

/-! ### Sessions without an escape -/

theorem isClear_refused : Outcome.IsClear Session.refused :=
  show Clear "connection refused" by decide

/-- An output that prints nothing with an escape. -/
def Output.IsClear : Output → Prop
  | .print text => Clear text
  | .log _ => True

/-- A session whose plain transcript has no escape if the outcomes of its requests have none. -/
def ClearSession {α : Type} (ends : α → Prop) (session : Session Notice (Except Error α)) : Prop :=
  Keeps Outcome.IsClear (fun notice => (notice.output .plain).IsClear) (Ends ends Error.IsClear)
    session

namespace ClearSession

variable {α β : Type} {ends : α → Prop} {ends' : β → Prop}

theorem andThen {session : Session Notice (Except Error α)}
    {next : α → Session Notice (Except Error β)} (h : ClearSession ends session)
    (hnext : ∀ value, ends value → ClearSession ends' (next value)) :
    ClearSession ends' (session.andThen next) := by
  refine Keeps.bind h ?_
  rintro (e | value) hresult
  · exact .done hresult
  · exact hnext value hresult

end ClearSession

theorem Phase.clear_send (phase : Phase) (request : Request) :
    ClearSession Reply.IsClear (phase.send request) := by
  refine .tell trivial (.ask ?_)
  rintro (detail | reply) houtcome
  · have hmessage : Clear ("Network error: " ++ detail) :=
      Palette.clear_append.mpr ⟨by decide, houtcome⟩
    exact .tell trivial (.done hmessage)
  · exact .done houtcome

theorem ResolutionFailure.isClear_toError {failure : ResolutionFailure}
    (h : Clear failure.message) : failure.toError.IsClear := by
  show Clear ("Could not resolve device endpoint: " ++ failure.message)
  simp +decide [h]

theorem Discovery.clear_ofReply {reply : Reply} (h : reply.IsClear) :
    ClearSession (fun discovery => Clear discovery.endpoint) (Discovery.ofReply reply) := by
  refine .tell (Report.clear_incoming h.body) ?_
  have hresolved := Reply.ends_resolveEndpoint h
  cases hresult : reply.resolveEndpoint with
  | error failure =>
    rw [hresult] at hresolved
    exact .done (ResolutionFailure.isClear_toError hresolved)
  | ok endpoint =>
    rw [hresult] at hresolved
    exact .tell trivial (.tell (Report.clear_endpoint hresolved) (.done hresolved))

namespace BaseUrl

variable {base : BaseUrl}

theorem clear_listClients (base : BaseUrl) :
    ClearSession (fun clients => ∀ client ∈ clients, client.IsClear) base.listClients := by
  refine (Phase.discovery.clear_send _).andThen fun reply hreply => ?_
  exact .done ((Reply.ends_parseClients hreply).mapError fun _ => ResolutionFailure.isClear_toError)

theorem clear_discover (h : base.url.Legible) :
    ClearSession (fun discovery => Clear discovery.endpoint) base.discover := by
  refine .tell (Report.clear_outgoing (by decide) (legible_clients h).clear_text) ?_
  exact (Phase.discovery.clear_send _).andThen fun reply => Discovery.clear_ofReply

theorem clear_perform (h : base.url.Legible) {endpoint : String} (hendpoint : Clear endpoint)
    (descriptor : Descriptor) :
    ClearSession (fun _ => True) (base.perform endpoint descriptor) := by
  have hlabel : Clear ("Send request to client " ++ endpoint) := by simp +decide [hendpoint]
  have hurl := (legible_operation h endpoint descriptor).clear_text
  refine .tell (Report.clear_outgoing hlabel hurl) ?_
  refine (Phase.operation.clear_send _).andThen fun reply hreply => ?_
  exact .tell (Report.clear_incoming hreply.body) (.done trivial)

theorem clear_execute (h : base.url.Legible) (descriptor : Descriptor) :
    ClearSession (fun _ => True) (base.execute descriptor) :=
  (clear_discover h).andThen fun _ hendpoint =>
    (clear_perform h hendpoint descriptor).andThen fun _ _ => .done trivial

end BaseUrl

end Stimulus
