import Stimulus.Proofs.Keyed
import Stimulus.Proofs.Palette.Clear
import Stimulus.Proofs.Result

/-! What is taken from a reply.  A client has no escape in its texts if no string that the reply
holds has one, and neither does the reason why a reply names no client: it quotes what it found. -/

namespace Stimulus

open Palette (Clear)

namespace Json

mutual

/-- The strings that stand in a value, as their texts are read. -/
def strings : Json → List String
  | .string text => [text]
  | .array items => itemStrings items
  | .object members => memberStrings members
  | _ => []

def itemStrings : List Json → List String
  | [] => []
  | item :: rest => strings item ++ itemStrings rest

def memberStrings : List (String × Json) → List String
  | [] => []
  | (_, value) :: rest => strings value ++ memberStrings rest

end

theorem mem_itemStrings {items : List Json} {text : String} :
    text ∈ itemStrings items ↔ ∃ item ∈ items, text ∈ strings item := by
  induction items with
  | nil => simp [itemStrings]
  | cons item rest ih => simp [itemStrings, ih]

theorem mem_memberStrings {members : List (String × Json)} {text : String} :
    text ∈ memberStrings members ↔ ∃ member ∈ members, text ∈ strings member.2 := by
  induction members with
  | nil => simp [memberStrings]
  | cons member rest ih => simp [memberStrings, ih]

/-- A value none of whose strings has an escape. -/
def IsClear (value : Json) : Prop :=
  ∀ text ∈ value.strings, Clear text

instance (value : Json) : Decidable value.IsClear :=
  inferInstanceAs (Decidable (∀ text ∈ value.strings, Clear text))

variable {value : Json}

theorem IsClear.item {items : List Json} (h : (array items).IsClear) {item : Json}
    (hitem : item ∈ items) : item.IsClear :=
  fun text htext => h text (mem_itemStrings.mpr ⟨item, hitem, htext⟩)

theorem IsClear.member {members : List (String × Json)} (h : (object members).IsClear)
    {name : String} {value : Json} (hmember : (name, value) ∈ members) : value.IsClear :=
  fun text htext => h text (mem_memberStrings.mpr ⟨(name, value), hmember, htext⟩)

theorem IsClear.of_string? (h : value.IsClear) {text : String} (htext : value.string? = some text) :
    Clear text := by
  cases value with
  | string s =>
    obtain rfl := Option.some.inj htext
    exact h s (.head _)
  | _ => cases htext

theorem IsClear.of_member? (h : value.IsClear) {name : String} {member : Json}
    (hmember : value.member? name = some member) : member.IsClear := by
  cases value with
  | object members => exact h.member (Keyed.mem_of_get? hmember)
  | _ => cases hmember

/-- What a message calls a value: it quotes a string, and a number is written with numerals. -/
theorem clear_shape (value : Json) : Clear value.shape.text := by
  have hnumeral {label : String} (hlabel : Clear label) {digits : List Char}
      (hdigits : Decimal.AllNumeral digits) : Clear (label ++ String.ofList digits ++ "`") := by
    simp only [Palette.clear_append]
    exact ⟨⟨hlabel, Palette.clear_of_allNumeral hdigits⟩, by decide⟩
  cases value with
  | null => decide
  | boolean value => cases value <;> decide
  | number value =>
    cases value with
    | integer value =>
      exact hnumeral (show Clear "integer `" by decide) (Decimal.allNumeral_ofInt value)
    | float value =>
      exact hnumeral (show Clear "floating point `" by decide) (Decimal.allNumeral_text .data value)
  | string value =>
    exact Palette.clear_append.mpr ⟨show Clear "string " by decide, Palette.clear_quoted value⟩
  | array _ => exact show Clear "sequence" by decide
  | object _ => exact show Clear "map" by decide

end Json

/-! ### Decoding -/

/-- A failure of decoding whose message has no escape. -/
def Decode.Error.IsClear (e : Decode.Error) : Prop :=
  Clear e.message

theorem Decode.ends_fail {α : Type} {holds : α → Prop} {cause : Decode.Cause}
    (h : Clear cause.text) : Ends holds Decode.Error.IsClear (Decode.fail .root cause) := by
  have hmessage : Decode.Error.message ⟨.root, cause⟩ = cause.text := if_pos rfl
  rwa [Decode.fail, Ends, Decode.Error.IsClear, hmessage]

namespace Json

variable {value : Json}

theorem ends_refuse {α : Type} {holds : α → Prop} {expected : String}
    (hexpected : Clear expected) (value : Json) :
    Ends holds Decode.Error.IsClear (value.refuse expected) := by
  have hcause : Clear ("invalid type: " ++ value.shape.text ++ ", expected " ++ expected) := by
    simp only [Palette.clear_append]
    exact ⟨⟨⟨by decide, clear_shape value⟩, by decide⟩, hexpected⟩
  exact Decode.ends_fail hcause

theorem ends_readText (h : value.IsClear) : Ends Clear Decode.Error.IsClear value.readText := by
  cases value with
  | string text => exact h.of_string? rfl
  | _ => exact ends_refuse (by decide) _

theorem ends_readText? (h : value.IsClear) :
    Ends (fun given => ∀ text ∈ given, Clear text) Decode.Error.IsClear value.readText? := by
  have htext : Ends (fun given => ∀ text ∈ given, Clear text) Decode.Error.IsClear
      (value.readText.map some) :=
    (ends_readText h).map fun text htext _ hsome => Option.some.inj hsome ▸ htext
  cases value with
  | null => exact fun _ hnone => nomatch hnone
  | _ => exact htext

end Json

namespace Client

/-- A draft whose texts have no escape so far. -/
structure Draft.IsClear (draft : Draft) : Prop where
  endpoint : ∀ text ∈ draft.endpoint, Clear text
  registrationId : ∀ text ∈ draft.registrationId, Clear text
  address : ∀ text ∈ draft.address, Clear text
  version : ∀ text ∈ draft.version, Clear text

theorem Draft.isClear_empty : Draft.empty.IsClear :=
  ⟨nofun, nofun, nofun, nofun⟩

theorem Draft.ends_add {draft : Draft} {value : Json} (hdraft : draft.IsClear)
    (hvalue : value.IsClear) (name : String) :
    Ends Draft.IsClear Decode.Error.IsClear (draft.add name value) := by
  unfold Draft.add
  split
  · refine (Json.ends_readText hvalue).bind fun text htext => ?_
    exact { hdraft with endpoint := fun _ hsome => Option.some.inj hsome ▸ htext }
  · exact (Json.ends_readText? hvalue).bind fun given hgiven =>
      { hdraft with registrationId := hgiven }
  · exact (Json.ends_readText? hvalue).bind fun given hgiven => { hdraft with address := hgiven }
  · exact (Json.ends_readText? hvalue).bind fun given hgiven => { hdraft with version := hgiven }
  · exact hdraft

theorem Draft.ends_finish {draft : Draft} {missing : Decode.Cause} (hdraft : draft.IsClear)
    (hmissing : Clear missing.text) :
    Ends Client.IsClear Decode.Error.IsClear (draft.finish missing) := by
  unfold Draft.finish
  cases hendpoint : draft.endpoint with
  | none => exact Decode.ends_fail hmissing
  | some endpoint =>
    exact ⟨hdraft.endpoint endpoint hendpoint, hdraft.registrationId, hdraft.address,
      hdraft.version⟩

theorem ends_ofJson {value : Json} (h : value.IsClear) :
    Ends Client.IsClear Decode.Error.IsClear (ofJson value) := by
  cases value with
  | object members =>
    refine (Ends.foldlM Draft.isClear_empty fun draft member hmember hdraft => ?_).bind
      fun draft hdraft => Draft.ends_finish hdraft (by decide)
    exact Draft.ends_add hdraft (h.member hmember) member.1
  | array items =>
    refine (Ends.foldlM Draft.isClear_empty fun draft pair hpair hdraft => ?_).bind
      fun draft hdraft => (Draft.ends_finish hdraft (by decide)).bind fun client hclient => ?_
    · exact Draft.ends_add hdraft (h.item (List.of_mem_zip hpair).2) pair.1
    split
    · have hcause : Clear ("invalid length " ++ String.ofList (Decimal.ofNat items.length) ++
          ", expected " ++ "fewer elements in array") := by
        simp only [Palette.clear_append]
        exact ⟨⟨⟨by decide, Palette.clear_ofNat _⟩, by decide⟩, by decide⟩
      exact Decode.ends_fail hcause
    · exact hclient
  | _ => exact Json.ends_refuse (by decide) _

end Client

/-! ### Replies -/

/-- A reply without an escape in its body or in any string that the body holds as JSON. -/
structure Reply.IsClear (reply : Reply) : Prop where
  body : Clear reply.body
  strings : Ends Json.IsClear (fun _ => True) (Json.parse reply.body)

instance (reply : Reply) : Decidable reply.IsClear :=
  decidable_of_iff (Clear reply.body ∧ Ends Json.IsClear (fun _ => True) (Json.parse reply.body))
    ⟨fun h => ⟨h.1, h.2⟩, fun h => ⟨h.body, h.strings⟩⟩

/-- What becomes of a request, without an escape. -/
def Outcome.IsClear (outcome : Outcome) : Prop :=
  Ends Reply.IsClear Clear outcome

instance (outcome : Outcome) : Decidable outcome.IsClear :=
  inferInstanceAs (Decidable (Ends Reply.IsClear Clear outcome))

namespace Reply

variable {reply : Reply}

theorem ends_clientList (h : reply.IsClear) :
    Ends (fun records => ∀ record ∈ records, record.IsClear)
      (fun failure => Clear failure.message) reply.clientList := by
  have hrefused : Clear ("server answered " ++ String.ofList (Decimal.ofNat reply.status) ++
      " to the client list request") := by
    simp only [Palette.clear_append]
    exact ⟨⟨by decide, Palette.clear_ofNat _⟩, by decide⟩
  unfold clientList
  split
  · exact hrefused
  · split
    · rename_i fault _
      exact show Clear (ResolutionFailure.notJson fault).message by cases fault <;> decide
    · rename_i records hparse
      have hstrings := h.strings
      rw [hparse] at hstrings
      exact fun record hrecord => hstrings.item hrecord
    · exact show Clear ResolutionFailure.notArray.message by decide

theorem ends_parseClients (h : reply.IsClear) :
    Ends (fun clients => ∀ client ∈ clients, client.IsClear)
      (fun failure => Clear failure.message) reply.parseClients := by
  refine (ends_clientList h).bind fun records hrecords => ?_
  refine (Ends.mapM fun record hrecord => Client.ends_ofJson (hrecords record hrecord)).mapError
    fun e he => ?_
  exact Palette.clear_append.mpr ⟨show Clear "malformed client record: " by decide, he⟩

theorem ends_resolveEndpoint (h : reply.IsClear) :
    Ends Clear (fun failure => Clear failure.message) reply.resolveEndpoint := by
  have hunnamed : Clear ResolutionFailure.noEndpoint.message := by decide
  refine (ends_clientList h).bind fun records hrecords => ?_
  cases records with
  | nil => exact show Clear ResolutionFailure.noClient.message by decide
  | cons first rest =>
    simp only
    split
    · rename_i endpoint hendpoint
      split
      · exact hunnamed
      · obtain ⟨value, hvalue, hstring⟩ := Option.bind_eq_some_iff.mp hendpoint
        exact ((hrecords first (.head _)).of_member? hvalue).of_string? hstring
    · exact hunnamed

end Reply

end Stimulus
