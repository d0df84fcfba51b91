import Stimulus.Proofs.Exchange.Resolve

/-! The records of a list of clients.  A record is an object with the fields of a client, or an
array of them in their order; all of them are decoded, one client for each in the order of the list,
or the reply is refused for the first that is none. -/

namespace Stimulus

open Json (Tree greatestDepth)

namespace Client

/-- The fields that a record need not have. -/
def optionalNames : List String := ["registrationId", "address", "lwM2mVersion"]

/-- What can stand under a name in a record. -/
def Accepts (name : String) (value : Json) : Prop :=
  (name = "endpoint" → ∃ text, value = .string text) ∧
    (name ∈ optionalNames → value = .null ∨ ∃ text, value = .string text)

theorem string?_eq_some_iff {value : Json} {text : String} :
    value.string? = some text ↔ value = .string text := by
  cases value <;> simp [Json.string?]

theorem exists_readText_iff {value : Json} :
    (∃ text, value.readText = .ok text) ↔ ∃ text, value = .string text := by
  cases value <;> simp [Json.readText, Json.refuse, Decode.fail]

theorem exists_readText?_iff {value : Json} :
    (∃ text, value.readText? = .ok text) ↔ value = .null ∨ ∃ text, value = .string text := by
  cases value <;> simp [Json.readText?, Json.readText, Json.refuse, Decode.fail, Except.map]

namespace Draft

variable {draft draft' : Draft} {name : String} {value : Json} {members : List (String × Json)}

theorem ext_text (h : ∀ name ∈ fieldNames, draft.text name = draft'.text name) :
    draft = draft' := by
  have hendpoint : draft.endpoint = draft'.endpoint := h "endpoint" (by decide)
  have hregistration : draft.registrationId = draft'.registrationId :=
    h "registrationId" (by decide)
  have haddress : draft.address = draft'.address := h "address" (by decide)
  have hversion : draft.version = draft'.version := h "lwM2mVersion" (by decide)
  cases draft
  cases draft'
  simp_all

/-- A field of a client is added if it has a value that its name accepts, and a field of another
name is passed over. -/
theorem exists_add_iff : (∃ draft', draft.add name value = .ok draft') ↔ Accepts name value := by
  unfold add
  split
  case h_1 =>
    rw [exists_bind_pure_iff, exists_readText_iff]
    simp [Accepts, optionalNames]
  case h_5 hendpoint hregistration haddress hversion =>
    simp only [Accepts, optionalNames, List.mem_cons, List.not_mem_nil, or_false]
    constructor
    · rintro -
      exact ⟨fun h => (hendpoint h).elim,
        fun h => (h.elim hregistration (·.elim haddress hversion)).elim⟩
    · rintro -
      exact ⟨draft, rfl⟩
  -- The other fields of a client may be missing.
  all_goals
    rw [exists_bind_pure_iff, exists_readText?_iff]
    simp [Accepts, optionalNames]

theorem exists_foldlM_add_iff :
    (∃ draft', members.foldlM (fun draft (name, value) => add draft name value) draft =
      .ok draft') ↔ ∀ member ∈ members, Accepts member.1 member.2 := by
  induction members generalizing draft with
  | nil => simp [pure, Except.pure]
  | cons member members ih =>
    obtain ⟨name, value⟩ := member
    rw [List.foldlM_cons, List.forall_mem_cons, ← @exists_add_iff draft]
    constructor
    · rintro ⟨last, h⟩
      obtain ⟨next, hadd, h⟩ := bind_eq_ok_iff.mp h
      exact ⟨⟨next, hadd⟩, ih.mp ⟨last, h⟩⟩
    · rintro ⟨⟨next, hadd⟩, h⟩
      obtain ⟨last, h⟩ := (@ih next).mpr h
      exact ⟨last, bind_eq_ok_iff.mpr ⟨next, hadd, h⟩⟩

theorem text_foldlM_empty (hdistinct : (members.map (·.1)).Nodup)
    (h : members.foldlM (fun draft (name, value) => add draft name value) .empty = .ok draft)
    (hname : name ∈ fieldNames) :
    draft.text name = (Keyed.get? name members).bind Json.string? := by
  rw [text_foldlM_add hname hdistinct h]
  cases Keyed.get? name members with
  | some value => rfl
  | none =>
    have hempty : ∀ name ∈ fieldNames, Draft.empty.text name = none := by decide
    exact hempty name hname

/-- The fields of a draft are those that have been there, if their names accept them all. -/
theorem foldlM_empty_eq_ok_iff (hdistinct : (members.map (·.1)).Nodup) :
    members.foldlM (fun draft (name, value) => add draft name value) .empty = .ok draft ↔
      ∀ name ∈ fieldNames, (∀ value ∈ Keyed.get? name members, Accepts name value) ∧
        draft.text name = (Keyed.get? name members).bind Json.string? := by
  constructor
  · intro h name hname
    have haccepts := exists_foldlM_add_iff.mp ⟨draft, h⟩
    exact ⟨fun value hvalue => haccepts (name, value) (Keyed.mem_of_get? hvalue),
      text_foldlM_empty hdistinct h hname⟩
  · intro h
    have haccepts : ∀ member ∈ members, Accepts member.1 member.2 := by
      intro member hmember
      by_cases hname : member.1 ∈ fieldNames
      · exact (h member.1 hname).1 member.2 (Keyed.get?_of_mem_of_nodup hdistinct hmember)
      · refine ⟨fun heq => ?_, fun hmem => ?_⟩
        · exact absurd (by rw [heq]; decide) hname
        · exact absurd (List.mem_cons_of_mem "endpoint" hmem) hname
    obtain ⟨read, hread⟩ := (@exists_foldlM_add_iff .empty _).mpr haccepts
    have hsame : read = draft := ext_text fun name hname => by
      rw [text_foldlM_empty hdistinct hread hname, (h name hname).2]
    rw [hread, hsame]

end Draft

/-! ### Records -/

/-- The text of a field that a record need not have: none if the field is missing or `null`. -/
inductive OptionalText : Option Tree → Option String → Prop
  | absent : OptionalText none none
  | null : OptionalText (some .null) none
  | text (text : String) : OptionalText (some (.string text)) (some text)

/-- The values in the four places of a record are those of a client. -/
structure Fields (endpoint registrationId address version : Option Tree) (client : Client) :
    Prop where
  endpoint : endpoint = some (.string client.endpoint)
  registrationId : OptionalText registrationId client.registrationId
  address : OptionalText address client.address
  version : OptionalText version client.version

/-- A record of a client: an object with its fields, of which the last one of each name counts, or
an array of them in their order. -/
inductive Decodes : Tree → Client → Prop
  | object {members : List (String × Tree)} {client : Client}
      (fields : Fields (Tree.last? "endpoint" members) (Tree.last? "registrationId" members)
        (Tree.last? "address" members) (Tree.last? "lwM2mVersion" members) client) :
      Decodes (.object members) client
  | array {items : List Tree} {client : Client} (length : items.length ≤ 4)
      (fields : Fields items[0]? items[1]? items[2]? items[3]? client) :
      Decodes (.array items) client

/-- The draft in which all fields of a client are read. -/
def draft (client : Client) : Draft :=
  ⟨some client.endpoint, client.registrationId, client.address, client.version⟩

theorem Draft.finish_eq_ok_iff {draft : Draft} {missing : Decode.Cause} {client : Client} :
    draft.finish missing = .ok client ↔ draft = client.draft := by
  constructor
  · intro h
    unfold finish at h
    split at h
    · cases h
    · rename_i hendpoint
      cases h
      cases draft
      simp_all [Client.draft]
  · rintro rfl
    rfl

section

variable {depth : Nat} {field : Option Tree} {value : Option Json} {client : Client}

/-- Either there is nothing in a place of a record, or there is a tree and its value. -/
abbrev FieldReads (depth : Nat) (field : Option Tree) (value : Option Json) : Prop :=
  Option.Rel (fun tree value => tree.read depth = .ok value) field value

theorem eq_string_iff {tree : Tree} {value : Json} {text : String}
    (h : tree.read depth = .ok value) : value = .string text ↔ tree = .string text := by
  cases Tree.read_cases h <;> simp

theorem eq_null_iff {tree : Tree} {value : Json} (h : tree.read depth = .ok value) :
    value = .null ↔ tree = .null := by
  cases Tree.read_cases h <;> simp

theorem endpoint_iff (h : FieldReads depth field value) (text : String) :
    ((∀ v ∈ value, Accepts "endpoint" v) ∧ some text = value.bind Json.string?) ↔
      field = some (.string text) := by
  cases h with
  | none => simp
  | @some tree value hread =>
    rw [Option.some_inj, ← eq_string_iff hread, Option.bind_some, eq_comm, string?_eq_some_iff]
    constructor
    · exact And.right
    · rintro rfl
      simp [Accepts, optionalNames]

theorem optionalText_iff (name : String) (hname : name ∈ optionalNames)
    (h : FieldReads depth field value) (text : Option String) :
    ((∀ v ∈ value, Accepts name v) ∧ text = value.bind Json.string?) ↔
      OptionalText field text := by
  have hrequired : name ≠ "endpoint" := by
    rintro rfl
    exact absurd hname (by decide)
  cases h with
  | none =>
    constructor
    · rintro ⟨-, rfl⟩
      exact .absent
    · rintro ⟨⟩
      simp
  | @some tree value hread =>
    simp only [Accepts, hrequired, hname, Option.mem_some, forall_eq', Option.bind_some,
      false_imp_iff, true_imp_iff, true_and]
    constructor
    · rintro ⟨hnull | ⟨read, hstring⟩, rfl⟩
      · rw [(eq_null_iff hread).mp hnull, hnull]
        exact .null
      · rw [(eq_string_iff hread).mp hstring, hstring]
        exact .text read
    · intro h
      cases h with
      | null =>
        obtain rfl := (eq_null_iff hread).mpr rfl
        exact ⟨.inl rfl, rfl⟩
      | text text =>
        obtain rfl := (eq_string_iff hread).mpr rfl
        exact ⟨.inr ⟨text, rfl⟩, rfl⟩

theorem foldlM_eq_draft_iff {members : List (String × Json)} {field : String → Option Tree}
    (hdistinct : (members.map (·.1)).Nodup)
    (hreads : ∀ name, FieldReads depth (field name) (Keyed.get? name members)) :
    members.foldlM (fun draft (name, value) => draft.add name value) Draft.empty =
        .ok client.draft ↔
      Fields (field "endpoint") (field "registrationId") (field "address") (field "lwM2mVersion")
        client := by
  have hendpoint := endpoint_iff (hreads "endpoint") client.endpoint
  have hregistration := optionalText_iff "registrationId" (by decide) (hreads "registrationId")
    client.registrationId
  have haddress := optionalText_iff "address" (by decide) (hreads "address") client.address
  have hversion := optionalText_iff "lwM2mVersion" (by decide) (hreads "lwM2mVersion")
    client.version
  rw [Draft.foldlM_empty_eq_ok_iff hdistinct]
  simp only [fieldNames, List.forall_mem_cons, List.not_mem_nil, false_imp_iff, forall_const,
    and_true]
  constructor
  · rintro ⟨hone, htwo, hthree, hfour⟩
    exact ⟨hendpoint.mp hone, hregistration.mp htwo, haddress.mp hthree, hversion.mp hfour⟩
  · rintro ⟨hone, htwo, hthree, hfour⟩
    exact ⟨hendpoint.mpr hone, hregistration.mpr htwo, haddress.mpr hthree, hversion.mpr hfour⟩

/-- With the names put beside its items, an array has the first item under the first name, and so
on; no other name is there. -/
theorem rel_get?_zip {items : List Tree} {values : List Json}
    (h : List.Forall₂ (fun item value => item.read depth = .ok value) items values)
    (name : String) :
    FieldReads depth (Keyed.get? name (fieldNames.zip items))
      (Keyed.get? name (fieldNames.zip values)) := by
  generalize fieldNames = names
  induction h generalizing names with
  | nil =>
    rw [List.zip_nil_right, List.zip_nil_right]
    exact .none
  | cons hfirst _ ih =>
    cases names with
    | nil => exact .none
    | cons known names =>
      rw [List.zip_cons_cons, List.zip_cons_cons, Keyed.get?, Keyed.get?]
      split
      · exact .some hfirst
      · exact ih names

theorem map_fst_zip_sublist {α : Type} (names : List String) (values : List α) :
    ((names.zip values).map (·.1)).Sublist names := by
  induction names generalizing values with
  | nil => exact .slnil
  | cons name names ih =>
    cases values with
    | nil => exact List.nil_sublist _
    | cons value values => exact (ih values).cons_cons name

theorem get?_zip (items : List Tree) :
    Keyed.get? "endpoint" (fieldNames.zip items) = items[0]? ∧
      Keyed.get? "registrationId" (fieldNames.zip items) = items[1]? ∧
      Keyed.get? "address" (fieldNames.zip items) = items[2]? ∧
      Keyed.get? "lwM2mVersion" (fieldNames.zip items) = items[3]? := by
  rcases items with _ | ⟨a, _ | ⟨b, _ | ⟨c, _ | ⟨d, items⟩⟩⟩⟩ <;>
    simp [fieldNames, Keyed.get?]

theorem ofJson_object_eq_ok_iff {members : List (String × Tree)} {values : List (String × Json)}
    (h : Tree.readMembers depth members = .ok values) :
    ofJson (.object (Keyed.ofList values)) = .ok client ↔ Decodes (.object members) client := by
  have hdistinct := Keyed.nodup_keys_of_sorted (Keyed.sorted_ofList values)
  have hfields := @foldlM_eq_draft_iff _ client _ (Tree.last? · members) hdistinct
    (Tree.rel_last? h)
  rw [ofJson, bind_eq_ok_iff]
  simp only [Draft.finish_eq_ok_iff, exists_eq_right, hfields]
  constructor
  · exact .object
  · rintro ⟨⟩
    assumption

theorem ofJson_array_eq_ok_iff {items : List Tree} {values : List Json}
    (h : List.Forall₂ (fun item value => item.read depth = .ok value) items values) :
    ofJson (.array values) = .ok client ↔ Decodes (.array items) client := by
  have hnames : fieldNames.Nodup := by decide
  have hdistinct := (map_fst_zip_sublist fieldNames values).nodup hnames
  have hfields := @foldlM_eq_draft_iff _ client _
    (fun name => Keyed.get? name (fieldNames.zip items)) hdistinct (rel_get?_zip h)
  obtain ⟨hendpoint, hregistration, haddress, hversion⟩ := get?_zip items
  simp only [hendpoint, hregistration, haddress, hversion] at hfields
  have hlength : values.length = items.length := h.length_eq.symm
  constructor
  · intro hread
    obtain ⟨draft, hfold, hread⟩ := bind_eq_ok_iff.mp hread
    obtain ⟨client', hfinish, hread⟩ := bind_eq_ok_iff.mp hread
    split at hread
    · cases hread
    · rename_i hshort
      cases hread
      rw [Draft.finish_eq_ok_iff] at hfinish
      subst hfinish
      exact .array (by simpa [hlength, fieldNames] using hshort) (hfields.mp hfold)
  · rintro ⟨⟩
    rename_i length fields
    refine bind_eq_ok_iff.mpr ⟨client.draft, hfields.mpr fields, ?_⟩
    refine bind_eq_ok_iff.mpr ⟨client, rfl, ?_⟩
    rw [if_neg (by simpa [hlength, fieldNames] using length)]
    rfl

/-- Of what is read of a tree a client is decoded exactly if the tree is a record of that client. -/
theorem ofJson_eq_ok_iff {tree : Tree} {value : Json} (h : tree.read depth = .ok value) :
    ofJson value = .ok client ↔ Decodes tree client := by
  have hnone {tree : Tree} {value : Json} (hvalue : ∀ client, ofJson value ≠ .ok client)
      (htree : ∀ client, ¬Decodes tree client) :
      ofJson value = .ok client ↔ Decodes tree client :=
    iff_of_false (hvalue client) (htree client)
  cases Tree.read_cases h with
  | null | boolean | number | string => exact hnone (fun _ => nofun) (fun _ => nofun)
  | array inside => exact ofJson_array_eq_ok_iff (Tree.readItems_eq_ok_iff.mp inside)
  | object inside => exact ofJson_object_eq_ok_iff inside

end

end Client

namespace Reply

open Client (Decodes)

variable {reply : Reply} {records : List Tree} {clients : List Client}

theorem parseClients_of_clientList {values : List Json} (h : reply.clientList = .ok values) :
    reply.parseClients = (values.mapM Client.ofJson).mapError .malformedRecord := by
  rw [parseClients, h]
  rfl

theorem Lists.parseClients_eq_ok_iff (h : reply.Lists records) :
    reply.parseClients = .ok clients ↔ List.Forall₂ Decodes records clients := by
  obtain ⟨values, hlist, hread⟩ := h.exists_clientList
  have hvalues := Tree.forall₂_of_read_array hread
  rw [parseClients_of_clientList hlist, mapError_eq_ok_iff, mapM_eq_ok_iff]
  clear hlist hread h
  induction hvalues generalizing clients with
  | nil => rw [List.forall₂_nil_left_iff, List.forall₂_nil_left_iff]
  | cons hfirst _ ih =>
    rw [List.forall₂_cons_left_iff, List.forall₂_cons_left_iff]
    simp only [Client.ofJson_eq_ok_iff hfirst, ih]

/-- The first record that is none of a client is the one that the list is refused for. -/
theorem Lists.parseClients_eq_error {before after : List Tree} {record : Tree}
    (h : reply.Lists (before ++ record :: after))
    (hbefore : ∀ earlier ∈ before, ∃ client, Decodes earlier client)
    (hrecord : ∀ client, ¬Decodes record client) :
    ∃ value error, record.read (greatestDepth - 1) = .ok value ∧
      Client.ofJson value = .error error ∧
      reply.parseClients = .error (.malformedRecord error) := by
  obtain ⟨values, hlist, hread⟩ := h.exists_clientList
  have hvalues := Tree.forall₂_of_read_array hread
  suffices hmap : ∃ value error, record.read (greatestDepth - 1) = .ok value ∧
      Client.ofJson value = .error error ∧ values.mapM Client.ofJson = .error error by
    obtain ⟨value, error, hvalue, herror, hmap⟩ := hmap
    refine ⟨value, error, hvalue, herror, ?_⟩
    rw [parseClients_of_clientList hlist, hmap]
    rfl
  clear hlist hread h
  induction before generalizing values with
  | nil =>
    obtain ⟨value, others, hvalue, -, rfl⟩ := List.forall₂_cons_left_iff.mp hvalues
    cases herror : Client.ofJson value with
    | ok client => exact absurd ((Client.ofJson_eq_ok_iff hvalue).mp herror) (hrecord client)
    | error error =>
      refine ⟨value, error, hvalue, herror, ?_⟩
      rw [List.mapM_cons, herror]
      rfl
  | cons earlier before ih =>
    obtain ⟨value, others, hvalue, hothers, rfl⟩ := List.forall₂_cons_left_iff.mp hvalues
    obtain ⟨⟨client, hclient⟩, hbefore⟩ := List.forall_mem_cons.mp hbefore
    obtain ⟨found, error, hfound, herror, hmap⟩ := ih hbefore others hothers
    refine ⟨found, error, hfound, herror, ?_⟩
    rw [List.mapM_cons, (Client.ofJson_eq_ok_iff hvalue).mpr hclient, hmap]
    rfl

/-- The clients of a reply are those of its records, one for each in their order, if it lists
records of clients and nothing else.  It is refused in every other case, and if it lists records,
for the first one that is none of a client. -/
theorem parseClients_exact (reply : Reply) :
    (∀ clients, reply.parseClients.mapError ResolutionFailure.toError = .ok clients ↔
      ∃ records, reply.Lists records ∧ List.Forall₂ Decodes records clients) ∧
    (∀ e, reply.parseClients.mapError ResolutionFailure.toError = .error e →
      ∃ reason, e = .deviceResolution reason) ∧
    ∀ before record after, reply.Lists (before ++ record :: after) →
      (∀ earlier ∈ before, ∃ client, Decodes earlier client) →
      (∀ client, ¬Decodes record client) →
        ∃ value error, record.read (greatestDepth - 1) = .ok value ∧
          Client.ofJson value = .error error ∧
          reply.parseClients.mapError ResolutionFailure.toError =
            .error (.deviceResolution ("malformed client record: " ++ error.message)) := by
  refine ⟨fun clients => ?_, ?_, ?_⟩
  · rw [mapError_eq_ok_iff]
    constructor
    · intro h
      obtain ⟨values, hlist, -⟩ := bind_eq_ok_iff.mp h
      obtain ⟨records, hlists, -⟩ := exists_lists_of_clientList hlist
      exact ⟨records, hlists, hlists.parseClients_eq_ok_iff.mp h⟩
    · rintro ⟨records, hlists, hdecodes⟩
      exact hlists.parseClients_eq_ok_iff.mpr hdecodes
  · intro e h
    obtain ⟨failure, -, rfl⟩ := mapError_eq_error_iff.mp h
    exact ⟨failure.message, rfl⟩
  · intro before record after hlists hbefore hrecord
    obtain ⟨value, error, hvalue, herror, hrefused⟩ :=
      hlists.parseClients_eq_error hbefore hrecord
    refine ⟨value, error, hvalue, herror, ?_⟩
    rw [hrefused]
    rfl

end Reply

/-! ### Lists that are read and lists that are refused -/

namespace Json

def Literal.seven : Literal := ⟨false, ['7'], none, none⟩

theorem Literal.proper_seven : seven.Proper where
  whole := ⟨by decide, List.all_eq_true.mp (by decide)⟩
  noLeadingZero := by
    rintro c rest ⟨⟩
  fraction := nofun
  exponent := nofun

theorem Literal.inRange_seven : seven.InRange :=
  exists_value_iff.mp ⟨.integer 7, rfl⟩

namespace Tree

/-- Empty brackets with so many more around them. -/
def nested : Nat → Tree
  | 0 => .array []
  | n + 1 => .array [nested n]

def nestedText : Nat → List Char
  | 0 => ['[', ']']
  | n + 1 => '[' :: (nestedText n ++ [']'])

theorem writtenAs_nested (n : Nat) : (nested n).WrittenAs (nestedText n) := by
  induction n with
  | zero => exact @WrittenAs.emptyArray [] nofun
  | succ n ih =>
    have hinside := @WrittenAs.array [(nested n, nestedText n)] (List.cons_ne_nil _ _)
      (List.forall_mem_singleton.mpr ih)
    simp only [List.map_cons, List.map_nil, List.intercalate_singleton] at hinside
    exact hinside

theorem lt_of_fits_nested {depth n : Nat} (h : (nested n).Fits depth) : n < depth := by
  induction n generalizing depth with
  | zero =>
    cases h
    omega
  | succ n ih =>
    cases h with
    | @array depth _ inside =>
      have hless := ih (inside _ (List.mem_singleton_self _))
      omega

end Tree

end Json

namespace Reply

open Client (Decodes)

theorem decodes_lampRecord : Decodes lampRecord ⟨"lamp", none, none, none⟩ :=
  .object ⟨rfl, .absent, .absent, .absent⟩

/-- The lamp, a fan as an array, and a number in the place of a record. -/
def lampFanNumber : Reply := ⟨200, "[\x7b\"endpoint\":\"lamp\"\x7d,[\"fan\",null],7]"⟩

theorem lists_lampFanNumber : lampFanNumber.Lists
    [lampRecord, .array [.string "fan", .null], .number .seven] where
  success := by decide
  written := by
    have hfan : Tree.WrittenAs (.array [.string "fan", .null]) "[\"fan\",null]".toList :=
      @Tree.WrittenAs.array [(_, _), (_, _)] (List.cons_ne_nil _ _)
        (List.forall_mem_cons.mpr ⟨@Tree.writtenAs_string "fan" (by decide),
          List.forall_mem_singleton.mpr .nullWord⟩)
    exact @Tree.WrittenAs.array [(_, _), (_, _), (_, _)] (List.cons_ne_nil _ _)
      (List.forall_mem_cons.mpr ⟨writtenAs_lampRecord, List.forall_mem_cons.mpr ⟨hfan,
        List.forall_mem_singleton.mpr (.number Json.Literal.proper_seven)⟩⟩)
  fits := .array (List.forall_mem_cons.mpr ⟨fits_lampRecord _, List.forall_mem_cons.mpr
    ⟨.array (List.forall_mem_cons.mpr ⟨.string "fan", List.forall_mem_singleton.mpr .null⟩),
      List.forall_mem_singleton.mpr (.number Json.Literal.inRange_seven)⟩⟩)

theorem parseClients_lampFanNumber :
    lampAlone.parseClients.mapError ResolutionFailure.toError =
        .ok [⟨"lamp", none, none, none⟩] ∧
      ∃ error, Client.ofJson (.number (.integer 7)) = .error error ∧
        lampFanNumber.parseClients.mapError ResolutionFailure.toError =
          .error (.deviceResolution ("malformed client record: " ++ error.message)) := by
  refine ⟨((parseClients_exact lampAlone).1 _).mpr
    ⟨_, lists_lampAlone, .cons decodes_lampRecord .nil⟩, ?_⟩
  have hfan : Decodes (.array [.string "fan", .null]) ⟨"fan", none, none, none⟩ :=
    .array (by decide) ⟨rfl, .null, .absent, .absent⟩
  obtain ⟨value, error, hvalue, herror, hrefused⟩ :=
    (parseClients_exact lampFanNumber).2.2 [lampRecord, .array [.string "fan", .null]]
      (.number .seven) [] lists_lampFanNumber
      (List.forall_mem_cons.mpr ⟨⟨_, decodes_lampRecord⟩,
        List.forall_mem_singleton.mpr ⟨_, hfan⟩⟩)
      (fun client => nofun)
  obtain rfl : .number (.integer 7) = value := Except.ok.inj hvalue
  exact ⟨error, herror, hrefused⟩

/-- A record with nested brackets under a name that no field has. -/
def deepRecord (n : Nat) : Tree := .object [("endpoint", .string "lamp"), ("x", .nested n)]

/-- A list of such a record. -/
def deepList (n : Nat) : Reply :=
  ⟨200, String.ofList ("[\x7b\"endpoint\":\"lamp\",\"x\":".toList ++
    (Tree.nestedText n ++ "\x7d]".toList))⟩

theorem writtenAs_deepList (n : Nat) :
    Tree.WrittenAs (.array [deepRecord n]) (deepList n).body.toList := by
  have hrecord := @writtenAs_pair "lamp" "x" _ _ (by decide) (by decide) (Tree.writtenAs_nested n)
  have hlist := @Tree.WrittenAs.array [(deepRecord n, _)] (List.cons_ne_nil _ _)
    (List.forall_mem_singleton.mpr hrecord)
  rw [deepList, String.toList_ofList]
  simpa using hlist

theorem lt_of_fits_deepList {depth n : Nat} (h : Tree.Fits depth (.array [deepRecord n])) :
    n + 2 < depth := by
  cases h with
  | array inside =>
    cases inside (deepRecord n) (List.mem_singleton_self _) with
    | object inside =>
      have hnested := Tree.lt_of_fits_nested (inside ("x", .nested n) (by simp))
      omega

/-- The body is an array by the grammar, and its only record is one of a client, but none is read: a
value in it lies too deep. -/
theorem not_parseClients_of_writtenAs :
    (deepList 125).status = 200 ∧
      Tree.WrittenAs (.array [deepRecord 125]) (deepList 125).body.toList ∧
      Decodes (deepRecord 125) ⟨"lamp", none, none, none⟩ ∧
      ∀ clients, (deepList 125).parseClients ≠ .ok clients := by
  refine ⟨rfl, writtenAs_deepList 125, .object ⟨rfl, .absent, .absent, .absent⟩,
    fun clients h => ?_⟩
  obtain ⟨values, hlist, -⟩ := bind_eq_ok_iff.mp h
  have hfits := lt_of_fits_deepList (fits_of_clientList (writtenAs_deepList 125) hlist)
  exact absurd hfits (by decide)

end Reply

end Stimulus
