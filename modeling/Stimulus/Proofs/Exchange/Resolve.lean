import Stimulus.Proofs.Exchange.Clients
import Stimulus.Proofs.Json.Soundness

/-! The list of clients by its text.  A reply lists records if it is a success and its body writes
an array of them, within the depth and the range that numbers have.  The name that requests are sent
to depends on one member of the first record, and on nothing else in such a list. -/

namespace Stimulus

namespace Json.Tree

/-- What an object has under a name; no other tree has fields. -/
def field? (name : String) : Tree → Option Tree
  | object members => last? name members
  | _ => none

/-- The text of a string. -/
def string? : Tree → Option String
  | string value => some value
  | _ => none

variable {depth : Nat} {tree : Tree} {value : Json}

theorem string?_of_read (h : tree.read depth = .ok value) : value.string? = tree.string? := by
  cases read_cases h <;> rfl

/-- The text under a name is that of the member of that name in what is read. -/
theorem string?_member?_of_read (h : tree.read depth = .ok value) (name : String) :
    (value.member? name).bind Json.string? = (tree.field? name).bind string? := by
  cases read_cases h with
  | null | boolean | number | string | array => rfl
  | @object _ members values inside =>
    have hrel := rel_last? inside name
    simp only [member?, field?]
    generalize last? name members = field at hrel
    generalize Keyed.get? name (Keyed.ofList values) = read at hrel
    cases hrel with
    | none => rfl
    | some hread => exact string?_of_read hread

theorem forall₂_of_read_array {items : List Tree} {values : List Json}
    (h : read depth (.array items) = .ok (.array values)) :
    List.Forall₂ (fun item value => item.read (depth - 1) = .ok value) items values := by
  cases read_cases h with
  | array inside => exact readItems_eq_ok_iff.mp inside

theorem exists_read_array {items : List Tree} (h : Fits depth (.array items)) :
    ∃ values, read depth (.array items) = .ok (.array values) := by
  obtain ⟨value, hread⟩ := h.exists_read
  cases read_cases hread with
  | array inside => exact ⟨_, hread⟩

theorem exists_items_of_read {values : List Json} (h : tree.read depth = .ok (.array values)) :
    ∃ items, tree = .array items := by
  cases read_cases h with
  | array inside => exact ⟨_, rfl⟩

end Json.Tree

open Json (Tree greatestDepth)

namespace Reply

/-- The reply is a success whose body writes an array of these records, all of which can be read. -/
structure Lists (reply : Reply) (records : List Tree) : Prop where
  success : 200 ≤ reply.status ∧ reply.status ≤ 299
  written : Tree.WrittenAs (.array records) reply.body.toList
  fits : Tree.Fits greatestDepth (.array records)

variable {reply : Reply} {records : List Tree} {endpoint : String}

theorem isSuccess_iff : reply.isSuccess = true ↔ 200 ≤ reply.status ∧ reply.status ≤ 299 := by
  rw [isSuccess, Bool.and_eq_true, decide_eq_true_iff, decide_eq_true_iff]
  omega

theorem Lists.exists_clientList (h : reply.Lists records) :
    ∃ values, reply.clientList = .ok values ∧
      Tree.read greatestDepth (.array records) = .ok (.array values) := by
  obtain ⟨values, hread⟩ := Tree.exists_read_array h.fits
  have hparse := h.written.parse_eq
  rw [hread] at hparse
  refine ⟨values, ?_, hread⟩
  rw [clientList, isSuccess_iff.mpr h.success, hparse]
  rfl

theorem parse_of_clientList {values : List Json} (h : reply.clientList = .ok values) :
    reply.isSuccess = true ∧ Json.parse reply.body = .ok (.array values) := by
  rw [clientList] at h
  split at h
  · cases h
  · rename_i hsuccess
    split at h
    · cases h
    · rename_i hparse
      cases h
      exact ⟨by simpa using hsuccess, hparse⟩
    · cases h

theorem exists_lists_of_clientList {values : List Json} (h : reply.clientList = .ok values) :
    ∃ records, reply.Lists records ∧
      Tree.read greatestDepth (.array records) = .ok (.array values) := by
  obtain ⟨hsuccess, hparse⟩ := parse_of_clientList h
  obtain ⟨tree, hwritten, hread⟩ := Json.exists_tree_of_parse hparse
  obtain ⟨records, rfl⟩ := Tree.exists_items_of_read hread
  exact ⟨records, ⟨isSuccess_iff.mp hsuccess, hwritten, Tree.fits_of_read hread⟩, hread⟩

/-- Whatever the body writes, it fits if there is a list. -/
theorem fits_of_clientList {tree : Tree} {values : List Json}
    (hwritten : tree.WrittenAs reply.body.toList) (h : reply.clientList = .ok values) :
    tree.Fits greatestDepth := by
  have hparse := hwritten.parse_eq
  rw [(parse_of_clientList h).2] at hparse
  exact Tree.fits_of_read hparse.symm

theorem Lists.resolveEndpoint_nil (h : reply.Lists []) :
    reply.resolveEndpoint = .error .noClient := by
  obtain ⟨values, hlist, hread⟩ := h.exists_clientList
  have hvalues := Tree.forall₂_of_read_array hread
  cases hvalues
  rw [resolveEndpoint, hlist]
  rfl

theorem Lists.resolveEndpoint_cons {first : Tree} {others : List Tree}
    (h : reply.Lists (first :: others)) :
    reply.resolveEndpoint =
      match (first.field? "endpoint").bind Tree.string? with
      | some endpoint => if endpoint.isEmpty then .error .noEndpoint else .ok endpoint
      | none => .error .noEndpoint := by
  obtain ⟨values, hlist, hread⟩ := h.exists_clientList
  have hvalues := Tree.forall₂_of_read_array hread
  cases hvalues with
  | cons hfirst hothers =>
    have hresolve := Reply.resolveEndpoint_cons hlist
    rw [Tree.string?_member?_of_read hfirst] at hresolve
    exact hresolve

theorem exists_first_of_resolveEndpoint (h : reply.resolveEndpoint = .ok endpoint) :
    ∃ first others, reply.Lists (first :: others) := by
  obtain ⟨values, hlist, -⟩ := bind_eq_ok_iff.mp h
  obtain ⟨records, hlists, -⟩ := exists_lists_of_clientList hlist
  cases records with
  | nil =>
    rw [hlists.resolveEndpoint_nil] at h
    cases h
  | cons first others => exact ⟨first, others, hlists⟩

theorem string?_field?_eq_some_iff {tree : Tree} {name text : String} :
    (tree.field? name).bind Tree.string? = some text ↔
      ∃ members, tree = .object members ∧ Tree.last? name members = some (.string text) := by
  constructor
  · intro h
    obtain ⟨field, hfield, htext⟩ := Option.bind_eq_some_iff.mp h
    unfold Tree.field? at hfield
    split at hfield
    · unfold Tree.string? at htext
      split at htext
      · cases htext
        exact ⟨_, rfl, hfield⟩
      · cases htext
    · cases hfield
  · rintro ⟨members, rfl, hlast⟩
    rw [Tree.field?, hlast]
    rfl

theorem resolveEndpoint_eq_ok_iff :
    reply.resolveEndpoint = .ok endpoint ↔ ∃ members others,
      reply.Lists (.object members :: others) ∧
        Tree.last? "endpoint" members = some (.string endpoint) ∧ endpoint ≠ "" := by
  constructor
  · intro h
    obtain ⟨first, others, hlists⟩ := exists_first_of_resolveEndpoint h
    rw [hlists.resolveEndpoint_cons] at h
    split at h
    · rename_i hfield
      split at h
      · cases h
      · rename_i hempty
        cases h
        obtain ⟨members, rfl, hlast⟩ := string?_field?_eq_some_iff.mp hfield
        exact ⟨members, others, hlists, hlast, by simpa using hempty⟩
    · cases h
  · rintro ⟨members, others, hlists, hlast, hempty⟩
    have hfield := string?_field?_eq_some_iff.mpr ⟨members, rfl, hlast⟩
    rw [hlists.resolveEndpoint_cons, hfield]
    simp [hempty]

/-- A reply resolves to the text that the first record of its list has for its last member of the
name `endpoint`, if it is not empty, and to a failure of resolution in every other case.  So two
lists resolve to the same if their first records have the same text there, or both have none. -/
theorem resolveEndpoint_exact (reply : Reply) :
    (∀ endpoint, reply.resolveEndpoint.mapError ResolutionFailure.toError = .ok endpoint ↔
      ∃ members others, reply.Lists (.object members :: others) ∧
        Tree.last? "endpoint" members = some (.string endpoint) ∧ endpoint ≠ "") ∧
    (∀ e, reply.resolveEndpoint.mapError ResolutionFailure.toError = .error e →
      ∃ reason, e = .deviceResolution reason) ∧
    ∀ (other : Reply) (first first' : Tree) (rest rest' : List Tree),
      reply.Lists (first :: rest) → other.Lists (first' :: rest') →
      (first.field? "endpoint").bind Tree.string? = (first'.field? "endpoint").bind Tree.string? →
        reply.resolveEndpoint = other.resolveEndpoint := by
  refine ⟨fun endpoint => ?_, ?_, ?_⟩
  · rw [mapError_eq_ok_iff, resolveEndpoint_eq_ok_iff]
  · intro e h
    obtain ⟨failure, -, rfl⟩ := mapError_eq_error_iff.mp h
    exact ⟨failure.message, rfl⟩
  · intro other first first' rest rest' hlists hlists' hfields
    rw [hlists.resolveEndpoint_cons, hlists'.resolveEndpoint_cons, hfields]

end Reply

/-! ### Lists with a lamp at the front -/

namespace Json

/-- A number as `1e400` writes it, which is out of range. -/
def Literal.huge : Literal := ⟨false, ['1'], none, some ⟨'e', [], ['4', '0', '0']⟩⟩

theorem Literal.proper_huge : huge.Proper where
  whole := ⟨by decide, List.all_eq_true.mp (by decide)⟩
  noLeadingZero := by
    rintro c rest ⟨⟩
  fraction := nofun
  exponent := by
    rintro _ ⟨⟩
    exact ⟨.inl rfl, .inl rfl, by decide, List.all_eq_true.mp (by decide)⟩

theorem Tree.not_fits_huge (depth : Nat) : ¬Fits depth (.number .huge) := by
  have hvalue : Literal.huge.value.toOption = none := by decide +kernel
  rintro ⟨⟩
  rename_i inRange
  obtain ⟨n, hn⟩ := Literal.exists_value_iff.mpr inRange
  rw [hn] at hvalue
  cases hvalue

end Json

namespace Reply

/-- A record as `{"endpoint":"lamp"}` writes it. -/
def lampRecord : Tree := .object [("endpoint", .string "lamp")]

theorem writtenAs_lampRecord : lampRecord.WrittenAs "\x7b\"endpoint\":\"lamp\"\x7d".toList := by
  have hname := @Tree.writtenAs_string "endpoint" (by decide)
  have htext := @Tree.writtenAs_string "lamp" (by decide)
  exact @Tree.WrittenAs.object [⟨"endpoint", _, .string "lamp", _⟩] (List.cons_ne_nil _ _)
    (List.forall_mem_singleton.mpr hname) (List.forall_mem_singleton.mpr htext)

theorem fits_lampRecord (depth : Nat) : lampRecord.Fits (depth + 1) :=
  .object (List.forall_mem_singleton.mpr (.string "lamp"))

/-- The lamp alone. -/
def lampAlone : Reply := ⟨200, "[\x7b\"endpoint\":\"lamp\"\x7d]"⟩

theorem lists_lampAlone : lampAlone.Lists [lampRecord] where
  success := by decide
  written := @Tree.WrittenAs.array [(lampRecord, _)] (List.cons_ne_nil _ _)
    (List.forall_mem_singleton.mpr writtenAs_lampRecord)
  fits := .array (List.forall_mem_singleton.mpr (fits_lampRecord _))

/-- An endpoint and one more member, without blanks. -/
theorem writtenAs_pair {endpoint name : String} {value : Tree} {text : List Char}
    (hendpoint : endpoint.toList.all Json.isPlain = true)
    (hname : name.toList.all Json.isPlain = true) (hvalue : value.WrittenAs text) :
    Tree.WrittenAs (.object [("endpoint", .string endpoint), (name, value)])
      ('{' :: ([','].intercalate
        ["\"endpoint\":".toList ++ '"' :: (endpoint.toList ++ ['"']),
          '"' :: (name.toList ++ ['"']) ++ ':' :: text] ++ ['}'])) :=
  @Tree.WrittenAs.object [⟨"endpoint", _, .string endpoint, _⟩, ⟨name, _, value, _⟩]
    (List.cons_ne_nil _ _)
    (List.forall_mem_cons.mpr ⟨@Tree.writtenAs_string "endpoint" (by decide),
      List.forall_mem_singleton.mpr (Tree.writtenAs_string hname)⟩)
    (List.forall_mem_cons.mpr ⟨Tree.writtenAs_string hendpoint,
      List.forall_mem_singleton.mpr hvalue⟩)

theorem fits_pair {depth : Nat} {endpoint name : String} {value : Tree} (h : value.Fits depth) :
    Tree.Fits (depth + 1) (.object [("endpoint", .string endpoint), (name, value)]) :=
  .object (List.forall_mem_cons.mpr ⟨.string endpoint, List.forall_mem_singleton.mpr h⟩)

/-- The lamp with one more field, before something that is not a record. -/
def lampFirst : Reply := ⟨204, "[\x7b\"endpoint\":\"lamp\",\"address\":true\x7d, null]"⟩

theorem lists_lampFirst : lampFirst.Lists
    [.object [("endpoint", .string "lamp"), ("address", .boolean true)], .null] where
  success := by decide
  written := by
    have hfirst := @writtenAs_pair "lamp" "address" _ _ (by decide) (by decide) .trueWord
    have hsecond : Tree.WrittenAs .null [' ', 'n', 'u', 'l', 'l'] :=
      @Tree.WrittenAs.padded _ [' '] _ [] (by simp [Json.Blank]) (by simp [Json.Blank]) .nullWord
    exact @Tree.WrittenAs.array [(_, _), (_, _)] (List.cons_ne_nil _ _)
      (List.forall_mem_cons.mpr ⟨hfirst, List.forall_mem_singleton.mpr hsecond⟩)
  fits := .array (List.forall_mem_cons.mpr ⟨fits_pair (.boolean true),
    List.forall_mem_singleton.mpr .null⟩)

theorem resolveEndpoint_lampFirst :
    lampAlone.resolveEndpoint.mapError ResolutionFailure.toError = .ok "lamp" ∧
      lampAlone.resolveEndpoint = lampFirst.resolveEndpoint := by
  obtain ⟨hexact, -, hsame⟩ := resolveEndpoint_exact lampAlone
  exact ⟨(hexact "lamp").mpr ⟨_, _, lists_lampAlone, rfl, by decide⟩,
    hsame lampFirst _ _ _ _ lists_lampAlone lists_lampFirst rfl⟩

/-- A record as `{"endpoint":"fan","x":1e400}` writes it. -/
def hugeRecord : Tree := .object [("endpoint", .string "fan"), ("x", .number .huge)]

theorem writtenAs_hugeRecord :
    hugeRecord.WrittenAs "\x7b\"endpoint\":\"fan\",\"x\":1e400\x7d".toList :=
  @writtenAs_pair "fan" "x" _ _ (by decide) (by decide) (.number Json.Literal.proper_huge)

theorem not_fits_hugeRecord (depth : Nat) : ¬hugeRecord.Fits depth := by
  intro h
  cases h with
  | object inside => exact Tree.not_fits_huge _ (inside ("x", .number .huge) (by simp))

/-- The lamp before such a record. -/
def lampBeforeHuge : Reply :=
  ⟨200, "[\x7b\"endpoint\":\"lamp\"\x7d,\x7b\"endpoint\":\"fan\",\"x\":1e400\x7d]"⟩

/-- The body is written by the grammar, and its first record has an endpoint, but nothing is
resolved: a number in another record is out of range. -/
theorem not_resolveEndpoint_of_writtenAs :
    lampBeforeHuge.status = 200 ∧
      Tree.WrittenAs (.array [lampRecord, hugeRecord]) lampBeforeHuge.body.toList ∧
      lampRecord.field? "endpoint" = some (.string "lamp") ∧
      ∀ endpoint, lampBeforeHuge.resolveEndpoint ≠ .ok endpoint := by
  have hwritten : Tree.WrittenAs (.array [lampRecord, hugeRecord]) lampBeforeHuge.body.toList :=
    @Tree.WrittenAs.array [(_, _), (_, _)] (List.cons_ne_nil _ _)
      (List.forall_mem_cons.mpr ⟨writtenAs_lampRecord,
        List.forall_mem_singleton.mpr writtenAs_hugeRecord⟩)
  refine ⟨rfl, hwritten, rfl, fun endpoint h => ?_⟩
  obtain ⟨values, hlist, -⟩ := bind_eq_ok_iff.mp h
  cases fits_of_clientList hwritten hlist with
  | array inside => exact not_fits_hugeRecord _ (inside hugeRecord (by simp))

end Reply

end Stimulus
