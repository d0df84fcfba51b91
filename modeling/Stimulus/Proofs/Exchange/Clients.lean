import Stimulus.Proofs.Json.Ordered
import Stimulus.Report

/-! The two readers of a list of clients.  One decodes every record, the other looks at a single
member of the first record.  When the whole list can be decoded they agree about the first client
exactly if its record is an object and its endpoint is not empty; otherwise the second one finds no
endpoint, and never that of another client. -/

namespace Stimulus

namespace Client

/-- The text of a field of a draft, by the name of the field. -/
def Draft.text (draft : Draft) : String → Option String
  | "endpoint" => draft.endpoint
  | "registrationId" => draft.registrationId
  | "address" => draft.address
  | "lwM2mVersion" => draft.version
  | _ => none

theorem string?_of_readText {value : Json} {text : String} (h : value.readText = .ok text) :
    value.string? = some text := by
  cases value <;> simp_all [Json.readText, Json.refuse, Decode.fail, Json.string?]

theorem string?_of_readText? {value : Json} {text : Option String}
    (h : value.readText? = .ok text) : value.string? = text := by
  cases value <;> simp_all [Json.readText?, Json.readText, Json.refuse, Decode.fail, Json.string?,
    Except.map]

namespace Draft

variable {draft draft' : Draft} {name field : String}

/-- A member changes the field of its name and no other one. -/
theorem text_add {value : Json} (hfield : field ∈ fieldNames)
    (h : draft.add name value = .ok draft') :
    draft'.text field = if field = name then value.string? else draft.text field := by
  have hnames : field = "endpoint" ∨ field = "registrationId" ∨ field = "address" ∨
      field = "lwM2mVersion" := by
    simpa [fieldNames] using hfield
  unfold add at h
  split at h
  case h_1 =>
    obtain ⟨text, htext, h⟩ := bind_eq_ok_iff.mp h
    cases h
    rcases hnames with rfl | rfl | rfl | rfl <;> simp [Draft.text, string?_of_readText htext]
  case h_5 hendpoint hregistration haddress hversion =>
    cases h
    have hne : field ≠ name := by
      rintro rfl
      exact hnames.elim hendpoint (·.elim hregistration (·.elim haddress hversion))
    rw [if_neg hne]
  -- The other fields of a client may be missing.
  all_goals
    obtain ⟨text, htext, h⟩ := bind_eq_ok_iff.mp h
    cases h
    rcases hnames with rfl | rfl | rfl | rfl <;> simp [Draft.text, string?_of_readText? htext]

/-- After all members of an object a field has the text of the member of its name. -/
theorem text_foldlM_add {members : List (String × Json)} (hfield : field ∈ fieldNames)
    (hdistinct : (members.map (·.1)).Nodup)
    (h : members.foldlM (fun draft (name, value) => add draft name value) draft = .ok draft') :
    draft'.text field =
      match Keyed.get? field members with
      | some value => value.string?
      | none => draft.text field := by
  induction members generalizing draft with
  | nil =>
    cases h
    rfl
  | cons member members ih =>
    obtain ⟨name, value⟩ := member
    obtain ⟨hfirst, hrest⟩ := List.nodup_cons.mp hdistinct
    rw [List.foldlM_cons] at h
    obtain ⟨draft₁, hadd, h⟩ := bind_eq_ok_iff.mp h
    have htext := text_add hfield hadd
    rw [ih hrest h, Keyed.get?]
    by_cases hname : field = name
    · subst hname
      rw [Keyed.get?_eq_none hfirst]
      simpa using htext
    · simp only [if_neg hname] at htext ⊢
      rw [htext]

end Draft

/-- The endpoint of a client that is read from an object is the text that the object has under
that name. -/
theorem member?_of_ofJson_object {members : List (String × Json)} {client : Client}
    (hsorted : Keyed.Sorted members) (h : ofJson (.object members) = .ok client) :
    ((Json.object members).member? "endpoint").bind Json.string? = some client.endpoint := by
  rw [ofJson] at h
  obtain ⟨draft, hfold, h⟩ := bind_eq_ok_iff.mp h
  have hfield : "endpoint" ∈ fieldNames := by decide
  have htext := Draft.text_foldlM_add hfield (Keyed.nodup_keys_of_sorted hsorted) hfold
  have hendpoint : draft.endpoint = some client.endpoint := by
    rw [Draft.finish] at h
    split at h
    · cases h
    · cases h
      assumption
  rw [Json.member?, ← hendpoint]
  show _ = draft.text "endpoint"
  rw [htext]
  cases Keyed.get? "endpoint" members <;> rfl

end Client

namespace Reply

variable {reply : Reply} {client : Client} {others : List Client}

theorem ordered_of_clientList {records : List Json} (h : reply.clientList = .ok records) :
    ∀ record ∈ records, record.Ordered := by
  rw [clientList] at h
  split at h
  · cases h
  · split at h
    · cases h
    · rename_i hparse
      cases h
      cases Json.ordered_of_parse hparse with
      | array inside => exact inside
    · cases h

/-- The first client of a list that is read comes from the first record of the reply. -/
theorem exists_record_of_parseClients (h : reply.parseClients = .ok (client :: others)) :
    ∃ first records, reply.clientList = .ok (first :: records) ∧ first.Ordered ∧
      Client.ofJson first = .ok client := by
  obtain ⟨records, hlist, h⟩ := bind_eq_ok_iff.mp h
  have hread := mapM_eq_ok_iff.mp (mapError_eq_ok_iff.mp h)
  obtain ⟨first, rest, hfirst, -, rfl⟩ := List.forall₂_cons_right_iff.mp hread
  exact ⟨first, rest, hlist, ordered_of_clientList hlist first (.head _), hfirst⟩

theorem resolveEndpoint_cons {first : Json} {records : List Json}
    (h : reply.clientList = .ok (first :: records)) :
    reply.resolveEndpoint =
      match (first.member? "endpoint").bind Json.string? with
      | some endpoint => if endpoint.isEmpty then .error .noEndpoint else .ok endpoint
      | none => .error .noEndpoint := by
  rw [resolveEndpoint, h]
  rfl

/-- Whether the first record of the reply is an object, and not the array of its fields. -/
def firstIsObject (reply : Reply) : Bool :=
  match reply.clientList with
  | .ok (.object _ :: _) => true
  | _ => false

/-- When all clients can be read, the endpoint of the first one is the one that requests are sent
to if and only if its record is an object and the endpoint is not empty.  In every other case none
is found. -/
theorem resolveEndpoint_eq_first_iff (h : reply.parseClients = .ok (client :: others)) :
    (reply.resolveEndpoint = .ok client.endpoint ↔
      reply.firstIsObject ∧ client.endpoint ≠ "") ∧
    (reply.resolveEndpoint = .ok client.endpoint ∨
      reply.resolveEndpoint = .error .noEndpoint) := by
  obtain ⟨first, records, hlist, hordered, hread⟩ := exists_record_of_parseClients h
  have hresolve := resolveEndpoint_cons hlist
  cases hordered with
  | object hsorted hinside =>
    have hobject : reply.firstIsObject := by rw [firstIsObject, hlist]
    rw [Client.member?_of_ofJson_object hsorted hread] at hresolve
    by_cases hempty : client.endpoint = ""
    · simp [hresolve, hempty]
    · simp [hresolve, hempty, hobject]
  | array hinside =>
    have hobject : ¬reply.firstIsObject := by simp [firstIsObject, hlist]
    have hnone : reply.resolveEndpoint = .error .noEndpoint := hresolve
    simp [hnone, hobject]
  | null | boolean | number | string => cases hread

/-- Two clients, the second one as an array. -/
def lampAndFan : Reply :=
  ⟨200, "[\x7b\"address\": \"::1\", \"endpoint\": \"lamp\"\x7d, [\"fan\"]]"⟩

theorem resolveEndpoint_lampAndFan :
    lampAndFan.parseClients =
        .ok [⟨"lamp", none, some "::1", none⟩, ⟨"fan", none, none, none⟩] ∧
      lampAndFan.resolveEndpoint = .ok "lamp" := by
  have hread : lampAndFan.parseClients =
      .ok [⟨"lamp", none, some "::1", none⟩, ⟨"fan", none, none, none⟩] :=
    eq_ok_of_toOption (by decide +kernel)
  exact ⟨hread, (resolveEndpoint_eq_first_iff hread).1.mpr (by decide +kernel)⟩

/-- One client, as an array. -/
def fanAlone : Reply := ⟨200, "[[\"fan\"]]"⟩

/-- One client, with an empty name. -/
def nameless : Reply := ⟨200, "[\x7b\"endpoint\": \"\"\x7d]"⟩

/-- The only client of these replies is read and marked as the target of a run, but a run finds no
endpoint in them. -/
theorem not_resolveEndpoint_eq_first :
    fanAlone.parseClients = .ok [⟨"fan", none, none, none⟩] ∧
      Report.clients .plain [⟨"fan", none, none, none⟩] =
        "Registered clients:\n  * fan\n\n  * used as the target of 'run'\n" ∧
      (∀ endpoint, fanAlone.resolveEndpoint ≠ .ok endpoint) ∧
      nameless.parseClients = .ok [⟨"", none, none, none⟩] ∧
      (∀ endpoint, nameless.resolveEndpoint ≠ .ok endpoint) := by
  have hunresolved {reply : Reply} (h : reply.resolveEndpoint.toOption = none) :
      ∀ endpoint, reply.resolveEndpoint ≠ .ok endpoint := by
    intro endpoint hendpoint
    rw [hendpoint] at h
    cases h
  refine ⟨eq_ok_of_toOption (by decide +kernel), by decide +kernel,
    hunresolved (by decide +kernel), eq_ok_of_toOption (by decide +kernel),
    hunresolved (by decide +kernel)⟩

end Reply

end Stimulus
