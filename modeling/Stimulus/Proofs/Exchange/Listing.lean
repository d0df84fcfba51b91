import Stimulus.Proofs.Exchange.Execution
import Stimulus.Proofs.Exchange.Records
import Stimulus.Proofs.Url.Operation

/-! What a server's records have to be for its clients to be listed.  With an endpoint in every
record the endpoints are those of the records in their order, if the list is read at all.  It is
read exactly if the fields that a record need not have are texts, `null` or missing; fields of other
names make no difference. -/

namespace Stimulus

open Json (Tree greatestDepth)

open Client (Decodes Fields OptionalText)

section

variable {members : List (String × Tree)} {client : Client}

theorem Client.decodes_object_iff :
    Decodes (.object members) client ↔
      Fields (Tree.last? "endpoint" members) (Tree.last? "registrationId" members)
        (Tree.last? "address" members) (Tree.last? "lwM2mVersion" members) client := by
  constructor
  · rintro ⟨⟩
    assumption
  · exact .object

theorem Client.exists_decodes_iff {endpoint : String}
    (named : Tree.last? "endpoint" members = some (.string endpoint)) :
    (∃ client, Decodes (.object members) client) ↔
      ∀ name ∈ Client.optionalNames, ∃ text, OptionalText (Tree.last? name members) text := by
  simp only [Client.optionalNames, List.forall_mem_cons, List.not_mem_nil, false_imp_iff,
    forall_const, and_true, decodes_object_iff]
  constructor
  · rintro ⟨client, fields⟩
    exact ⟨⟨_, fields.registrationId⟩, ⟨_, fields.address⟩, ⟨_, fields.version⟩⟩
  · rintro ⟨⟨registrationId, hregistration⟩, ⟨address, haddress⟩, ⟨version, hversion⟩⟩
    exact ⟨⟨endpoint, registrationId, address, version⟩, named, hregistration, haddress, hversion⟩

theorem Client.endpoint_eq {endpoint : String} (h : Decodes (.object members) client)
    (named : Tree.last? "endpoint" members = some (.string endpoint)) :
    client.endpoint = endpoint := by
  have hfields := decodes_object_iff.mp h
  have hsame := hfields.endpoint.symm.trans named
  simpa using hsame

end

namespace BaseUrl

variable {records : List (List (String × Tree))} {endpoints : List String} {clients : List Client}

theorem value_listClients (base : BaseUrl) (reply : Reply) (outcomes : List Outcome) :
    (base.listClients.play (.ok reply :: outcomes)).value =
      reply.parseClients.mapError ResolutionFailure.toError := by
  rw [listClients, Session.play_andThen, Phase.play_send_ok _ _ rfl]
  rfl

theorem map_endpoint_eq
    (named : List.Forall₂ (fun members endpoint =>
      Tree.last? "endpoint" members = some (.string endpoint)) records endpoints)
    (h : List.Forall₂ Decodes (records.map .object) clients) :
    clients.map (·.endpoint) = endpoints := by
  induction named generalizing clients with
  | nil =>
    cases h
    rfl
  | cons hfirst _ ih =>
    obtain ⟨client, clients, hclient, hclients, rfl⟩ := List.forall₂_cons_left_iff.mp h
    rw [List.map_cons, Client.endpoint_eq hclient hfirst, ih hclients]

theorem exists_forall₂_decodes_iff
    (named : List.Forall₂ (fun members endpoint =>
      Tree.last? "endpoint" members = some (.string endpoint)) records endpoints) :
    (∃ clients, List.Forall₂ Decodes (records.map .object) clients) ↔
      ∀ members ∈ records, ∀ name ∈ Client.optionalNames,
        ∃ text, OptionalText (Tree.last? name members) text := by
  have hnamed := exists_forall₂_iff.mp ⟨endpoints, named⟩
  rw [exists_forall₂_iff, List.forall_mem_map]
  refine forall₂_congr fun members hmembers => ?_
  obtain ⟨endpoint, hendpoint⟩ := hnamed members hmembers
  exact Client.exists_decodes_iff hendpoint

theorem forall₂_decodes_congr {records' : List (List (String × Tree))}
    (h : List.Forall₂ (fun members members' => ∀ name ∈ Client.fieldNames,
      Tree.last? name members = Tree.last? name members') records records') :
    List.Forall₂ Decodes (records.map .object) clients ↔
      List.Forall₂ Decodes (records'.map .object) clients := by
  induction h generalizing clients with
  | nil => rfl
  | cons hfirst _ ih =>
    simp only [Client.fieldNames, List.forall_mem_cons] at hfirst
    obtain ⟨hendpoint, hregistration, haddress, hversion, -⟩ := hfirst
    simp only [List.map_cons, List.forall₂_cons_left_iff, Client.decodes_object_iff, hendpoint,
      hregistration, haddress, hversion, ih]

/-- Of records with an endpoint the clients are listed, under these endpoints in their order, if and
only if the list fits and the other fields of a client are texts, `null` or missing in every record.
Two such lists that fit and agree about the fields of clients are listed alike. -/
theorem listClients_endpoints_iff (base : BaseUrl) (reply : Reply) (outcomes : List Outcome)
    (success : 200 ≤ reply.status ∧ reply.status ≤ 299)
    (written : Tree.WrittenAs (.array (records.map .object)) reply.body.toList)
    (named : List.Forall₂ (fun members endpoint =>
      Tree.last? "endpoint" members = some (.string endpoint)) records endpoints) :
    let listed := (base.listClients.play (.ok reply :: outcomes)).value
    ((∃ clients, listed = .ok clients ∧ clients.map (·.endpoint) = endpoints) ↔
      Tree.Fits greatestDepth (.array (records.map .object)) ∧
        ∀ members ∈ records, ∀ name ∈ Client.optionalNames,
          ∃ text, OptionalText (Tree.last? name members) text) ∧
    (∀ clients, listed = .ok clients → clients.map (·.endpoint) = endpoints) ∧
    ∀ (other : Reply) (records' : List (List (String × Tree))),
      reply.Lists (records.map .object) → other.Lists (records'.map .object) →
      List.Forall₂ (fun members members' => ∀ name ∈ Client.fieldNames,
        Tree.last? name members = Tree.last? name members') records records' →
      ∀ clients, listed = .ok clients ↔
        (base.listClients.play (.ok other :: outcomes)).value = .ok clients := by
  intro listed
  have hlisted (clients : List Client) :
      listed = .ok clients ↔ Tree.Fits greatestDepth (.array (records.map .object)) ∧
        List.Forall₂ Decodes (records.map .object) clients := by
    rw [show listed = _ from value_listClients base reply outcomes, mapError_eq_ok_iff]
    constructor
    · intro h
      obtain ⟨values, hlist, -⟩ := bind_eq_ok_iff.mp h
      have hfits := Reply.fits_of_clientList written hlist
      have hlists : reply.Lists (records.map .object) := ⟨success, written, hfits⟩
      exact ⟨hfits, hlists.parseClients_eq_ok_iff.mp h⟩
    · rintro ⟨hfits, hdecodes⟩
      have hlists : reply.Lists (records.map .object) := ⟨success, written, hfits⟩
      exact hlists.parseClients_eq_ok_iff.mpr hdecodes
  have hendpoints : ∀ clients, listed = .ok clients → clients.map (·.endpoint) = endpoints :=
    fun clients h => map_endpoint_eq named ((hlisted clients).mp h).2
  refine ⟨?_, hendpoints, ?_⟩
  · rw [← exists_forall₂_decodes_iff named]
    constructor
    · rintro ⟨clients, h, -⟩
      obtain ⟨hfits, hdecodes⟩ := (hlisted clients).mp h
      exact ⟨hfits, clients, hdecodes⟩
    · rintro ⟨hfits, clients, hdecodes⟩
      have h := (hlisted clients).mpr ⟨hfits, hdecodes⟩
      exact ⟨clients, h, hendpoints clients h⟩
  · intro other records' hlists hlists' hsame clients
    rw [hlisted, value_listClients, mapError_eq_ok_iff, hlists'.parseClients_eq_ok_iff,
      forall₂_decodes_congr hsame]
    exact and_iff_right hlists.fits

/-! ### A lamp with a registration that is no text -/

open Reply (fits_pair lampAlone lists_lampAlone writtenAs_pair)

/-- The lamp with a field that clients do not have. -/
def lampSeen : Reply := ⟨200, "[\x7b\"endpoint\":\"lamp\",\"seen\":true\x7d]"⟩

theorem lists_lampSeen : lampSeen.Lists
    [.object [("endpoint", .string "lamp"), ("seen", .boolean true)]] where
  success := by decide
  written := by
    have hrecord := @writtenAs_pair "lamp" "seen" _ _ (by decide) (by decide) .trueWord
    exact @Tree.WrittenAs.array [(_, _)] (List.cons_ne_nil _ _)
      (List.forall_mem_singleton.mpr hrecord)
  fits := .array (List.forall_mem_singleton.mpr (fits_pair (.boolean true)))

/-- The lamp is listed, with the other field and without it. -/
theorem listClients_lampSeen :
    ∃ clients, (loopback.listClients.play [.ok lampAlone]).value = .ok clients ∧
      clients.map (·.endpoint) = ["lamp"] ∧
      (loopback.listClients.play [.ok lampSeen]).value = .ok clients := by
  have hnamed : List.Forall₂ (fun members endpoint =>
      Tree.last? "endpoint" members = some (.string endpoint))
      [[("endpoint", .string "lamp")]] ["lamp"] := .cons rfl .nil
  obtain ⟨hlisted, -, hsame⟩ := @listClients_endpoints_iff [[("endpoint", .string "lamp")]]
    ["lamp"] loopback lampAlone [] lists_lampAlone.success lists_lampAlone.written hnamed
  have hoptional : ∀ members ∈ [[("endpoint", Tree.string "lamp")]],
      ∀ name ∈ Client.optionalNames, ∃ text, OptionalText (Tree.last? name members) text := by
    rw [List.forall_mem_singleton]
    intro name hname
    have habsent : Tree.last? name [("endpoint", .string "lamp")] = none := by
      revert name
      simp [Client.optionalNames, Tree.last?]
    rw [habsent]
    exact ⟨none, .absent⟩
  obtain ⟨clients, hclients, hendpoints⟩ := hlisted.mpr ⟨lists_lampAlone.fits, hoptional⟩
  have hfields : List.Forall₂ (fun members members' => ∀ name ∈ Client.fieldNames,
      Tree.last? name members = Tree.last? name members') [[("endpoint", .string "lamp")]]
      [[("endpoint", .string "lamp"), ("seen", .boolean true)]] := by
    refine .cons ?_ .nil
    simp only [Client.fieldNames, List.forall_mem_cons]
    exact ⟨rfl, rfl, rfl, rfl, fun name hname => absurd hname List.not_mem_nil⟩
  have hseen := hsame lampSeen [[("endpoint", .string "lamp"), ("seen", .boolean true)]]
    lists_lampAlone lists_lampSeen hfields clients
  exact ⟨clients, hclients, hendpoints, hseen.mp hclients⟩

/-- The lamp with a number for a registration. -/
def numberedLamp : Reply :=
  ⟨200, "[\x7b\"endpoint\":\"lamp\",\"registrationId\":7\x7d]"⟩

theorem lists_numberedLamp : numberedLamp.Lists
    [.object [("endpoint", .string "lamp"), ("registrationId", .number .seven)]] where
  success := by decide
  written := by
    have hrecord := @writtenAs_pair "lamp" "registrationId" _ _ (by decide) (by decide)
      (.number Json.Literal.proper_seven)
    exact @Tree.WrittenAs.array [(_, _)] (List.cons_ne_nil _ _)
      (List.forall_mem_singleton.mpr hrecord)
  fits := .array (List.forall_mem_singleton.mpr
    (fits_pair (.number Json.Literal.inRange_seven)))

/-- Every record has an endpoint, and nothing is listed. -/
theorem not_listClients_endpoints :
    numberedLamp.Lists
        [.object [("endpoint", .string "lamp"), ("registrationId", .number .seven)]] ∧
      ∀ base outcomes clients,
        ((listClients base).play (.ok numberedLamp :: outcomes)).value ≠ .ok clients := by
  refine ⟨lists_numberedLamp, fun base outcomes clients h => ?_⟩
  rw [value_listClients, mapError_eq_ok_iff, lists_numberedLamp.parseClients_eq_ok_iff] at h
  obtain ⟨client, others, hclient, -, -⟩ := List.forall₂_cons_left_iff.mp h
  have hregistration := (Client.decodes_object_iff.mp hclient).registrationId
  nomatch hregistration

end BaseUrl

end Stimulus
