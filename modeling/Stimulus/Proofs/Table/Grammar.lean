import Stimulus.Config
import Stimulus.Proofs.Table.Record
import Stimulus.Proofs.Yaml.Value

/-! The grammar of tables.  A document is in outline if its entries stand in a mapping with scalar
keys and all its fields of text are scalars.  It is then read as a table exactly if it keeps the
grammar and all its payloads have values, as payloads do that consist of what JSON can hold, and the
table has what is declared and nothing else. -/

namespace Stimulus

open Yaml (Tree)

namespace Yaml.Tree

variable {α : Type} {tree : Tree} {name : String}

/-- The text of the scalar that stands under a name. -/
def text? (name : String) (tree : Tree) : Option String :=
  (tree.under? name).bind scalarText?

/-- The values of a mapping, in order. -/
def values : Tree → List Tree
  | .mapping _ entries => entries.map (·.2.2)
  | _ => []

def isMappingOfScalars : Tree → Bool
  | .mapping _ entries => entries.all (·.1.scalarText?.isSome)
  | _ => false

theorem mem_values_of_under? {value : Tree} (h : tree.under? name = some value) :
    value ∈ tree.values := by
  cases tree with
  | scalar _ _ _ | sequence _ _ | broken => cases h
  | mapping tag entries =>
    obtain ⟨key, label, hmem, -⟩ := exists_entry_of_findSomeRev? h
    exact List.mem_map.mpr ⟨_, hmem, rfl⟩

/-- A field of text is read from the text of its scalar. -/
theorem field_iff_rel {holds : Tree → α → Prop} {R : String → α → Prop} {found : Option α}
    (hword : (tree.under? name).all isWord = true)
    (hholds : ∀ value found, value.isWord = true →
      (holds value found ↔ ∃ text, value.scalarText? = some text ∧ R text found)) :
    tree.Field holds name found ↔ Option.Rel R (tree.text? name) found := by
  rw [Field, text?]
  cases hunder : tree.under? name with
  | none =>
    rw [Option.bind_none]
    constructor <;> intro h <;> cases h <;> exact .none
  | some value =>
    rw [hunder, Option.all_some] at hword
    obtain ⟨text, htext⟩ := exists_text_of_isWord hword
    rw [Option.bind_some, htext]
    constructor
    · intro h
      cases h with
      | some h =>
        obtain ⟨other, hother, h⟩ := (hholds _ _ hword).mp h
        obtain rfl := Option.some.inj (htext.symm.trans hother)
        exact .some h
    · intro h
      cases h with
      | some h => exact .some ((hholds _ _ hword).mpr ⟨text, htext, h⟩)

end Yaml.Tree

/-! ### Entries -/

theorem ContentFormat.name_injective {format format' : ContentFormat}
    (h : format.name = format'.name) : format = format' := by
  rw [← Option.some_inj, ← ofName?_name, ← ofName?_name, h]

namespace Descriptor

variable {entry : Tree} {name : String} {descriptor : Descriptor}

/-- Every field of text is a scalar, without a tag and not null. -/
def isOutline (entry : Tree) : Bool :=
  ["description", "method", "path", "format", "then"].all fun name =>
    (entry.under? name).all Tree.isWord

/-- The grammar of an entry. -/
structure Grammatical (entry : Tree) : Prop where
  record : entry.IsRecord ["description", "method", "path", "format", "payload", "then"]
  method : ∃ name ∈ ["GET", "PUT", "POST", "DELETE"], entry.text? "method" = some name
  path : ∃ path, entry.text? "path" = some path
  format : ∀ name, entry.text? "format" = some name → name ∈ ["Text", "TLV", "JSON", "", "none"]

/-- The payload, if there is one, has a value. -/
def Readable (entry : Tree) : Prop :=
  ∀ payload, entry.under? "payload" = some payload → ∃ json, payload.Denotes json

/-- The values that stand under the names of the fields: no format if none or an empty one is given,
no payload if none or null is given, and nothing for any other field that is left out. -/
structure DeclaredBy (entry : Tree) (descriptor : Descriptor) : Prop where
  description : entry.text? "description" = descriptor.description
  method : entry.text? "method" = some descriptor.method.name
  path : entry.text? "path" = some descriptor.path
  format : ((entry.text? "format").filter (· ≠ "")).getD "none" = descriptor.format.name
  payload : Option.Rel Tree.Denotes ((entry.under? "payload").filter fun value => !value.isNull)
    descriptor.payload
  next : entry.text? "then" = descriptor.next

/-! #### Fields -/

section

variable (hword : (entry.under? name).all Tree.isWord = true)

include hword

theorem field_text?_iff {found : Option (Option String)} :
    entry.Field HoldsText? name found ↔ found = (entry.text? name).map some := by
  have hrel : entry.Field HoldsText? name found ↔
      Option.Rel (fun text found => found = some text) (entry.text? name) found := by
    refine Tree.field_iff_rel hword fun value found hvalue => ?_
    obtain ⟨text, htext⟩ := Tree.exists_text_of_isWord hvalue
    rw [HoldsText?, Tree.string?_eq_ok_iff hvalue, htext]
    simp [eq_comm]
  rw [hrel]
  cases entry.text? name <;> cases found <;> simp

theorem field_path_iff {found : Option String} :
    entry.Field HoldsText name found ↔ entry.text? name = found := by
  have hrel : entry.Field HoldsText name found ↔
      Option.Rel (· = ·) (entry.text? name) found := by
    refine Tree.field_iff_rel hword fun value found _ => ?_
    have hread : HoldsText value found ↔ value.scalarText? = some found := Tree.readText_eq_ok_iff
    simpa using hread
  rw [hrel]
  cases entry.text? name <;> cases found <;> simp

theorem field_method_iff {found : Option Method} :
    entry.Field HoldsMethod name found ↔ entry.text? name = found.map Method.name := by
  have hrel : entry.Field HoldsMethod name found ↔
      Option.Rel (fun text method => text = method.name) (entry.text? name) found := by
    refine Tree.field_iff_rel hword fun value method hvalue => ?_
    simp only [HoldsMethod, Tree.variant_eq_ok_iff hvalue]
    constructor
    · rintro ⟨text, ⟨htext, -⟩, hmethod⟩
      have hname := List.find?_some hmethod
      exact ⟨text, htext, (of_decide_eq_true hname).symm⟩
    · rintro ⟨_, htext, rfl⟩
      have hmem : method ∈ Method.all := by cases method <;> decide
      exact ⟨method.name, ⟨htext, List.mem_map_of_mem hmem⟩, Method.ofName?_name method⟩
  rw [hrel]
  cases entry.text? name <;> cases found <;> simp

theorem field_format_iff {found : Option ContentFormat} :
    entry.Field HoldsFormat name found ↔
      (∀ text, entry.text? name = some text → text ∈ ContentFormat.names) ∧
        found = (entry.text? name).bind ContentFormat.ofName? := by
  have hrel : entry.Field HoldsFormat name found ↔
      Option.Rel (fun text format => text ∈ ContentFormat.names ∧
        ContentFormat.ofName? text = some format) (entry.text? name) found := by
    refine Tree.field_iff_rel hword fun value format hvalue => ?_
    simp only [HoldsFormat, Tree.variant_eq_ok_iff hvalue, and_assoc]
  rw [hrel]
  cases entry.text? name with
  | none => cases found <;> simp
  | some text =>
    cases found with
    | some format => simp [eq_comm]
    | none =>
      simp only [Option.not_rel_some_none, Option.some.injEq, forall_eq', Option.bind_some,
        false_iff, not_and]
      intro htext hnone
      have hsome := Draft.isSome_format htext
      rw [← hnone] at hsome
      cases hsome

end

theorem declared_format {text : Option String}
    (h : ∀ name, text = some name → name ∈ ContentFormat.names) :
    ((text.bind ContentFormat.ofName?).getD .unspecified).name =
      (text.filter (· ≠ "")).getD "none" := by
  have hnames : ∀ name ∈ ContentFormat.names,
      ((ContentFormat.ofName? name).getD .unspecified).name =
        ((some name).filter (· ≠ "")).getD "none" := by decide
  cases text with
  | none => rfl
  | some name => exact hnames name (h name rfl)

theorem declared_payload {found : Option (Option Json)} (h : entry.Field HoldsPayload name found) :
    Option.Rel Tree.Denotes ((entry.under? name).filter fun value => !value.isNull) found.join := by
  rw [Tree.Field] at h
  generalize entry.under? name = under at h
  cases h with
  | none => exact .none
  | @some value found h =>
    obtain ⟨json, hdenotes, rfl⟩ := Tree.value?_eq_ok_iff.mp h
    cases hnull : value.isNull with
    | true =>
      rw [Option.filter_some_neg (by simp [hnull])]
      exact .none
    | false =>
      rw [Option.filter_some_pos (by simp [hnull])]
      exact .some hdenotes

theorem exists_field_payload {found : Option Json}
    (h : Option.Rel Tree.Denotes ((entry.under? name).filter fun value => !value.isNull) found) :
    ∃ payload, entry.Field HoldsPayload name payload ∧ payload.join = found := by
  simp only [Tree.Field]
  generalize entry.under? name = under at h
  cases under with
  | none =>
    cases h
    exact ⟨none, .none, rfl⟩
  | some value =>
    refine ⟨some found, .some (Tree.value?_eq_ok_iff.mpr ?_), rfl⟩
    cases hnull : value.isNull with
    | true =>
      rw [Option.filter_some_neg (by simp [hnull])] at h
      cases h
      exact ⟨.null, Tree.denotes_null hnull, rfl⟩
    | false =>
      rw [Option.filter_some_pos (by simp [hnull])] at h
      cases h with
      | @some _ json hdenotes => exact ⟨json, hdenotes, rfl⟩

/-! #### Whole entries -/

theorem finish_eq_ok_iff {draft : Draft} {place : Decode.Place} :
    draft.finish place = .ok descriptor ↔
      draft.method = some descriptor.method ∧ draft.path = some descriptor.path ∧
      draft.description.join = descriptor.description ∧
      draft.format.getD .unspecified = descriptor.format ∧
      draft.payload.join = descriptor.payload ∧ draft.next.join = descriptor.next := by
  obtain ⟨description, method, path, format, payload, next⟩ := descriptor
  unfold Draft.finish
  split
  · simp_all [Decode.fail]
  · simp_all [Decode.fail]
  · simp_all
    grind

theorem join_map_some (text : Option String) : (text.map some).join = text := by
  cases text <;> rfl

theorem readFrom_iff (h : isOutline entry = true) {draft : Draft} :
    draft.ReadFrom entry ↔
      entry.IsRecord fieldNames ∧ draft.description = (entry.text? "description").map some ∧
      entry.text? "method" = draft.method.map Method.name ∧ entry.text? "path" = draft.path ∧
      ((∀ name, entry.text? "format" = some name → name ∈ ContentFormat.names) ∧
        draft.format = (entry.text? "format").bind ContentFormat.ofName?) ∧
      entry.Field HoldsPayload "payload" draft.payload ∧
      draft.next = (entry.text? "then").map some := by
  have hword {name : String} (hname : name ∈ ["description", "method", "path", "format", "then"]) :
      (entry.under? name).all Tree.isWord = true := List.all_eq_true.mp h name hname
  rw [← field_text?_iff (hword (by decide)), ← field_text?_iff (hword (by decide)),
    ← field_method_iff (hword (by decide)), ← field_path_iff (hword (by decide)),
    ← field_format_iff (hword (by decide))]
  constructor
  · rintro ⟨hrecord, hdescription, hmethod, hpath, hformat, hpayload, hnext⟩
    exact ⟨hrecord, hdescription, hmethod, hpath, hformat, hpayload, hnext⟩
  · rintro ⟨hrecord, hdescription, hmethod, hpath, hformat, hpayload, hnext⟩
    exact ⟨hrecord, hdescription, hmethod, hpath, hformat, hpayload, hnext⟩

/-- An entry in outline is read exactly if it keeps the grammar, as the values that it declares. -/
theorem ofTree_eq_ok_iff_declared (h : isOutline entry = true) {place : Decode.Place} :
    ofTree place entry = .ok descriptor ↔ Grammatical entry ∧ DeclaredBy entry descriptor := by
  rw [ofTree_eq_ok_iff]
  constructor
  · rintro ⟨draft, hread, hfinish⟩
    obtain ⟨hrecord, hdescription, hmethod, hpath, ⟨hnames, hformat⟩, hpayload, hnext⟩ :=
      (readFrom_iff h).mp hread
    obtain ⟨hmethod', hpath', hdescription', hformat', hpayload', hnext'⟩ :=
      finish_eq_ok_iff.mp hfinish
    rw [hmethod', Option.map_some] at hmethod
    rw [hpath'] at hpath
    have hknown : descriptor.method.name ∈ ["GET", "PUT", "POST", "DELETE"] := by
      cases descriptor.method <;> decide
    refine ⟨⟨hrecord, ⟨_, hknown, hmethod⟩, ⟨_, hpath⟩, hnames⟩, ?_⟩
    refine ⟨?_, hmethod, hpath, ?_, ?_, ?_⟩
    · rw [← hdescription', hdescription, join_map_some]
    · rw [← declared_format hnames, ← hformat, hformat']
    · rw [← hpayload']
      exact declared_payload hpayload
    · rw [← hnext', hnext, join_map_some]
  · rintro ⟨hgrammar, hdeclared⟩
    obtain ⟨payload, hpayload, hjoin⟩ := exists_field_payload hdeclared.payload
    refine ⟨⟨(entry.text? "description").map some, some descriptor.method, some descriptor.path,
      (entry.text? "format").bind ContentFormat.ofName?, payload, (entry.text? "then").map some⟩,
      (readFrom_iff h).mpr ?_, finish_eq_ok_iff.mpr ?_⟩
    · exact ⟨hgrammar.record, rfl, hdeclared.method, hdeclared.path, ⟨hgrammar.format, rfl⟩,
        hpayload, rfl⟩
    · refine ⟨rfl, rfl, ?_, ContentFormat.name_injective ?_, hjoin, ?_⟩
      · rw [join_map_some, hdeclared.description]
      · rw [declared_format hgrammar.format, hdeclared.format]
      · rw [join_map_some, hdeclared.next]

/-- A grammatical entry whose payload has a value declares a request. -/
theorem exists_declared (hgrammar : Grammatical entry) (hreadable : Readable entry) :
    ∃ descriptor, DeclaredBy entry descriptor := by
  obtain ⟨method, hmethod⟩ : ∃ method : Method, entry.text? "method" = some method.name := by
    obtain ⟨name, hname, htext⟩ := hgrammar.method
    have hname : name ∈ Method.all.map Method.name := hname
    obtain ⟨method, -, rfl⟩ := List.mem_map.mp hname
    exact ⟨method, htext⟩
  obtain ⟨path, hpath⟩ := hgrammar.path
  obtain ⟨payload, hpayload⟩ : ∃ payload, Option.Rel Tree.Denotes
      ((entry.under? "payload").filter fun value => !value.isNull) payload := by
    cases hunder : entry.under? "payload" with
    | none => exact ⟨none, .none⟩
    | some value =>
      obtain ⟨json, hdenotes⟩ := hreadable value hunder
      cases hnull : value.isNull with
      | true => exact ⟨none, by simp [Option.filter, hnull]⟩
      | false => exact ⟨some json, by simpa [Option.filter, hnull] using hdenotes⟩
  refine ⟨⟨entry.text? "description", method, path,
    ((entry.text? "format").bind ContentFormat.ofName?).getD .unspecified, payload,
    entry.text? "then"⟩, ?_⟩
  exact ⟨rfl, hmethod, hpath, (declared_format hgrammar.format).symm, hpayload, rfl⟩

theorem DeclaredBy.readable (h : DeclaredBy entry descriptor) : Readable entry := by
  intro value hvalue
  have hpayload := h.payload
  cases hnull : value.isNull with
  | true => exact ⟨.null, Tree.denotes_null hnull⟩
  | false =>
    rw [hvalue, Option.filter_some_pos (by simp [hnull])] at hpayload
    generalize descriptor.payload = found at hpayload
    cases hpayload with
    | some hdenotes => exact ⟨_, hdenotes⟩

end Descriptor

/-! ### Tables -/

namespace Yaml

/-- The document of tokens in which `depth` levels may nest. -/
def Document.within (depth : Nat) (tokens : List Token) : Document :=
  let (root, rest) := readRoot tokens
  let tree := root.map fun node =>
    let (node, anchors) := node.number ⟨[], 0, []⟩
    (Node.expand anchors depth node (100 * anchors.passed)).1
  { root := tree, alone := rest.elim false endsStream }

theorem Document.parse_eq_within (text : String) :
    parse text = within Node.greatestDepth (tokenize text) := rfl

theorem tokenize_ofList (chars : List Char) :
    tokenize (String.ofList chars) =
      if chars.all isAllowed then (Scanner.start chars).run (chars.length + 2) 0 else [.fault] := by
  rw [tokenize, String.toList_ofList]

theorem Document.exists_root {document : Document} {p : Tree → Bool}
    (h : (document.alone && document.root.any p) = true) :
    ∃ doc, document = ⟨some doc, true⟩ ∧ p doc = true := by
  obtain ⟨root, alone⟩ := document
  obtain ⟨halone, hroot⟩ := Bool.and_eq_true_iff.mp h
  obtain ⟨doc, hdoc, hp⟩ := (Option.any_eq_true _ _).mp hroot
  obtain rfl : root = some doc := hdoc
  obtain rfl : alone = true := halone
  exact ⟨doc, rfl, hp⟩

end Yaml

namespace Table

variable {doc : Tree} {table : Table}

/-- The entries stand in a mapping with scalar keys and are in outline, and the name is a scalar. -/
def isOutline (doc : Tree) : Bool :=
  (doc.under? "name").all Tree.isWord &&
    (doc.under? "test_cases").all fun cases =>
      cases.isMappingOfScalars && cases.values.all Descriptor.isOutline

/-- The grammar of a table. -/
structure Grammatical (doc : Tree) : Prop where
  record : doc.IsRecord ["name", "test_cases"]
  entries : ∃ cases, doc.under? "test_cases" = some cases ∧
    ∀ entry ∈ cases.values, Descriptor.Grammatical entry

/-- The payloads of all entries have values. -/
def Readable (doc : Tree) : Prop :=
  ∀ cases, doc.under? "test_cases" = some cases → ∀ entry ∈ cases.values, Descriptor.Readable entry

/-- The payloads of all entries consist of what JSON can hold. -/
def payloadsAreJson (doc : Tree) : Bool :=
  (doc.under? "test_cases").all fun cases =>
    cases.values.all fun entry => (entry.under? "payload").all Tree.isJson

theorem readable_of_payloadsAreJson (h : payloadsAreJson doc = true) : Readable doc := by
  intro cases hcases entry hentry payload hpayload
  rw [payloadsAreJson, hcases, Option.all_some, List.all_eq_true] at h
  have hjson := h entry hentry
  rw [hpayload, Option.all_some] at hjson
  exact payload.exists_denotes hjson

/-- The table has the name that stands in the document, or none of its own, and for each identifier
the entry that is written under it last. -/
structure DeclaredBy (doc : Tree) (table : Table) : Prop where
  name : (doc.text? "name").getD "unnamed" = table.name
  entries : ∀ id, Option.Rel Descriptor.DeclaredBy
    ((doc.under? "test_cases").bind fun cases => cases.under? id) (table.get? id)

theorem finish_eq_ok_iff {draft : Draft} :
    draft.finish = .ok table ↔ ∃ pairs, draft.entries = some pairs ∧
      table = ofEntries (draft.name.join.getD "unnamed") pairs := by
  unfold Draft.finish
  split
  · simp_all [Decode.fail]
  · simp_all [eq_comm]

/-- The entries of a mapping with scalar keys are read if each of them is. -/
theorem exists_holdsEntries_iff {cases : Tree} (hkeys : cases.isMappingOfScalars = true) :
    (∃ found, HoldsEntries cases found) ↔
      ∀ entry ∈ cases.values, ∃ descriptor, Descriptor.ofTree .root entry = .ok descriptor := by
  cases cases with
  | scalar _ _ _ | sequence _ _ | broken => cases hkeys
  | mapping tag entries =>
    simp only [HoldsEntries, Draft.readEntries_eq_ok_iff, Tree.entries?, Option.some.injEq,
      exists_eq_left', Tree.pairs, List.forall₂_map_left_iff, exists_forall₂_iff, Tree.values,
      List.forall_mem_map]
    refine forall₂_congr fun entry hentry => ?_
    have hkey := List.all_eq_true.mp hkeys entry hentry
    obtain ⟨id, hid⟩ := Option.isSome_iff_exists.mp hkey
    constructor
    · rintro ⟨pair, -, hread⟩
      exact ⟨pair.2, hread⟩
    · rintro ⟨descriptor, hread⟩
      exact ⟨(id, descriptor), hid, hread⟩

/-- The entry under an identifier is the last one that the mapping has under it. -/
theorem rel_under? {cases : Tree} {pairs : List (String × Descriptor)}
    (hkeys : cases.isMappingOfScalars = true) (h : HoldsEntries cases pairs) (id : String) :
    Option.Rel (fun entry descriptor => ∃ place, Descriptor.ofTree place entry = .ok descriptor)
      (cases.under? id) (Keyed.get? id (Keyed.ofList pairs)) := by
  cases cases with
  | scalar _ _ _ | sequence _ _ | broken => cases hkeys
  | mapping tag entries =>
    obtain ⟨_, hentries, hread⟩ := exists_entries_of_readEntries h
    cases hentries
    rw [Tree.under?, Keyed.get?_ofList]
    exact rel_ofTree id hread

section

variable (h : isOutline doc = true)

include h

theorem isWord_name : (doc.under? "name").all Tree.isWord = true := by
  simp only [isOutline, Bool.and_eq_true] at h
  exact h.1

theorem isMappingOfScalars_of_isOutline {cases : Tree}
    (hcases : doc.under? "test_cases" = some cases) : cases.isMappingOfScalars = true := by
  simp only [isOutline, hcases, Option.all_some, Bool.and_eq_true] at h
  exact h.2.1

theorem isOutline_of_mem {cases entry : Tree} (hcases : doc.under? "test_cases" = some cases)
    (hentry : entry ∈ cases.values) : Descriptor.isOutline entry = true := by
  simp only [isOutline, hcases, Option.all_some, Bool.and_eq_true, List.all_eq_true] at h
  exact h.2.2 entry hentry

/-- A document in outline that is read keeps the grammar and declares the table. -/
theorem declared_of_ofTree (hread : ofTree doc = .ok table) :
    Grammatical doc ∧ Readable doc ∧ DeclaredBy doc table := by
  obtain ⟨draft, hdraft, hfinish⟩ := ofTree_eq_ok_iff.mp hread
  obtain ⟨pairs, hpairs, rfl⟩ := finish_eq_ok_iff.mp hfinish
  obtain ⟨cases, hcases, hholds⟩ :
      ∃ cases, doc.under? "test_cases" = some cases ∧ HoldsEntries cases pairs := by
    have hfield := hdraft.entries
    rw [Tree.Field, hpairs] at hfield
    cases hunder : doc.under? "test_cases" with
    | none => simp [hunder] at hfield
    | some cases => exact ⟨cases, rfl, by simpa [hunder] using hfield⟩
  have hkeys := isMappingOfScalars_of_isOutline h hcases
  have hall : ∀ entry ∈ cases.values, Descriptor.Grammatical entry ∧ Descriptor.Readable entry := by
    intro entry hentry
    obtain ⟨descriptor, hentryRead⟩ :=
      (exists_holdsEntries_iff hkeys).mp ⟨pairs, hholds⟩ entry hentry
    have houtline := isOutline_of_mem h hcases hentry
    obtain ⟨hgrammar, hdeclared⟩ :=
      (Descriptor.ofTree_eq_ok_iff_declared houtline).mp hentryRead
    exact ⟨hgrammar, hdeclared.readable⟩
  refine ⟨⟨hdraft.record, cases, hcases, fun entry hentry => (hall entry hentry).1⟩, ?_, ?_, ?_⟩
  · intro other hother entry hentry
    obtain rfl := Option.some.inj (hcases.symm.trans hother)
    exact (hall entry hentry).2
  · have hname := (Descriptor.field_text?_iff (isWord_name h)).mp hdraft.name
    rw [hname, Descriptor.join_map_some]
    rfl
  · intro id
    have hrel := rel_under? hkeys hholds id
    rw [hcases, Option.bind_some]
    change Option.Rel _ _ (Keyed.get? id (Keyed.ofList pairs))
    generalize Keyed.get? id (Keyed.ofList pairs) = found at hrel
    cases hunder : cases.under? id with
    | none =>
      rw [hunder] at hrel
      cases hrel
      exact .none
    | some entry =>
      rw [hunder] at hrel
      cases hrel with
      | some hentryRead =>
        obtain ⟨place, hentryRead⟩ := hentryRead
        have houtline := isOutline_of_mem h hcases (Tree.mem_values_of_under? hunder)
        exact .some ((Descriptor.ofTree_eq_ok_iff_declared houtline).mp hentryRead).2

/-- A document in outline that keeps the grammar is read if its payloads have values. -/
theorem exists_ofTree (hgrammar : Grammatical doc) (hreadable : Readable doc) :
    ∃ table, ofTree doc = .ok table := by
  obtain ⟨cases, hcases, hentries⟩ := hgrammar.entries
  obtain ⟨pairs, hpairs⟩ : ∃ pairs, HoldsEntries cases pairs := by
    refine (exists_holdsEntries_iff (isMappingOfScalars_of_isOutline h hcases)).mpr ?_
    intro entry hentry
    have hgrammatical := hentries entry hentry
    obtain ⟨descriptor, hdeclared⟩ :=
      Descriptor.exists_declared hgrammatical (hreadable cases hcases entry hentry)
    have houtline := isOutline_of_mem h hcases hentry
    exact ⟨descriptor,
      (Descriptor.ofTree_eq_ok_iff_declared houtline).mpr ⟨hgrammatical, hdeclared⟩⟩
  have hdraft : Draft.ReadFrom doc ⟨(doc.text? "name").map some, some pairs⟩ := by
    refine ⟨hgrammar.record, (Descriptor.field_text?_iff (isWord_name h)).mpr rfl, ?_⟩
    rw [Tree.Field, hcases]
    exact .some hpairs
  exact ⟨_, ofTree_eq_ok_iff.mpr ⟨_, hdraft, rfl⟩⟩

end

/-! ### Texts -/

theorem parse_eq_ok_iff {text : String} (hdoc : Yaml.Document.parse text = ⟨some doc, true⟩) :
    parse text = .ok table ↔ ofTree doc = .ok table := by
  rw [parse, mapError_eq_ok_iff, decode, Yaml.decode, hdoc, bind_eq_ok_iff]
  simp [pure, Except.pure]

/-- A text is read as a table exactly if its document keeps the grammar and all payloads have
values, and with payloads that consist of what JSON can hold exactly if it keeps the grammar.  The
table has what is declared, and every failure is one of the table.  From a file the same table is
read, or the same failure behind the path of the file. -/
theorem parse_iff_grammatical {text : String}
    (hdoc : Yaml.Document.parse text = ⟨some doc, true⟩) (h : isOutline doc = true) :
    (payloadsAreJson doc = true → ((∃ table, parse text = .ok table) ↔ Grammatical doc)) ∧
      ((∃ table, parse text = .ok table) ↔ Grammatical doc ∧ Readable doc) ∧
      (∀ table, parse text = .ok table → DeclaredBy doc table) ∧
      (∀ e, parse text = .error e → ∃ detail, e = .tableParse detail) ∧
      ∀ files path, FileView.text files path = .ok text →
        (∀ table, Settings.readTable files path = .ok table ↔ parse text = .ok table) ∧
        ∀ detail, parse text = .error (.tableParse detail) →
          Settings.readTable files path = .error (.tableParse (path ++ ": " ++ detail)) := by
  have hread : (∃ table, parse text = .ok table) ↔ Grammatical doc ∧ Readable doc := by
    constructor
    · rintro ⟨table, htable⟩
      obtain ⟨hgrammar, hreadable, -⟩ := declared_of_ofTree h ((parse_eq_ok_iff hdoc).mp htable)
      exact ⟨hgrammar, hreadable⟩
    · rintro ⟨hgrammar, hreadable⟩
      obtain ⟨table, htable⟩ := exists_ofTree h hgrammar hreadable
      exact ⟨table, (parse_eq_ok_iff hdoc).mpr htable⟩
  refine ⟨fun hjson => ?_, hread, fun table htable => ?_, fun e he => ?_,
    fun files path htext => ⟨?_, ?_⟩⟩
  · rw [hread, and_iff_left (readable_of_payloadsAreJson hjson)]
  · exact (declared_of_ofTree h ((parse_eq_ok_iff hdoc).mp htable)).2.2
  · obtain ⟨fault, -, rfl⟩ := mapError_eq_error_iff.mp he
    exact ⟨fault.message, rfl⟩
  · intro table
    rw [Settings.readTable, htext, parse, mapError_eq_ok_iff]
    exact mapError_eq_ok_iff
  · intro detail hdetail
    obtain ⟨fault, hfault, heq⟩ := mapError_eq_error_iff.mp hdetail
    cases heq
    rw [Settings.readTable, htext]
    exact mapError_eq_error_iff.mpr ⟨fault, hfault, rfl⟩

/-- A table in which fields are left out, the format is empty and an identifier comes twice. -/
def lampTable : String :=
  "test_cases:\n  on:\n    path: /1\n    method: GET\n" ++
    "  on:\n    payload: [on, 1.5]\n    path: /1\n    method: PUT\n    format: ''\n"

theorem parse_lampTable :
    ∃ doc, Yaml.Document.parse lampTable = ⟨some doc, true⟩ ∧ isOutline doc = true ∧
      payloadsAreJson doc = true ∧ Grammatical doc ∧
      ∃ table, parse lampTable = .ok table ∧ DeclaredBy doc table := by
  have hwritten : ((Yaml.Document.parse lampTable).alone &&
      (Yaml.Document.parse lampTable).root.any fun doc =>
        (isOutline doc && payloadsAreJson doc) && (ofTree doc).toOption.isSome) = true := by
    decide +kernel
  obtain ⟨doc, hdoc, h⟩ := Yaml.Document.exists_root hwritten
  obtain ⟨hinside, hread⟩ := Bool.and_eq_true_iff.mp h
  obtain ⟨houtline, hjson⟩ := Bool.and_eq_true_iff.mp hinside
  obtain ⟨table, htable⟩ := Option.isSome_iff_exists.mp hread
  have hparsed := (parse_eq_ok_iff hdoc).mpr (eq_ok_of_toOption htable)
  obtain ⟨hiff, -, hdeclared, -, -⟩ := parse_iff_grammatical hdoc houtline
  have hgrammar := (hiff hjson).mp ⟨table, hparsed⟩
  exact ⟨doc, hdoc, houtline, hjson, hgrammar, table, hparsed, hdeclared table hparsed⟩

/-- The characters of a table whose only entry has a payload. -/
def payloadChars (payload : List Char) : List Char :=
  "test_cases:\n  on:\n    method: PUT\n    path: /1\n    payload: ".toList ++ payload ++ ['\n']

/-- A table whose payload nests deeper than documents are followed. -/
def deepTable : String :=
  String.ofList (payloadChars (List.replicate 130 '[' ++ List.replicate 130 ']'))

def nullTable : String :=
  String.ofList (payloadChars "null".toList)

theorem tokenize_deepTable :
    Yaml.tokenize deepTable =
      [.blockMappingStart, .key, .scalar "test_cases" .plain, .value,
        .blockMappingStart, .key, .scalar "on" .plain, .value,
        .blockMappingStart, .key, .scalar "method" .plain, .value, .scalar "PUT" .plain,
        .key, .scalar "path" .plain, .value, .scalar "/1" .plain,
        .key, .scalar "payload" .plain, .value] ++
      List.replicate 130 .flowSequenceStart ++ List.replicate 130 .flowSequenceEnd ++
      [.blockEnd, .blockEnd, .blockEnd, .streamEnd] :=
  (Yaml.tokenize_ofList _).trans (by decide +kernel)

/-- A document that keeps the grammar is refused if a payload nests too deep, though all of it would
be read if more levels were followed; and a payload that is null is left out. -/
theorem not_parse_iff_grammatical :
    (∃ doc, Yaml.Document.within 200 (Yaml.tokenize deepTable) = ⟨some doc, true⟩ ∧
      isOutline doc = true ∧ payloadsAreJson doc = true ∧ Grammatical doc ∧
      ¬∃ table, parse deepTable = .ok table) ∧
    ∃ doc, Yaml.Document.parse nullTable = ⟨some doc, true⟩ ∧
      isOutline doc = true ∧ payloadsAreJson doc = true ∧
      ∃ table descriptor payload, parse nullTable = .ok table ∧
        table.get? "on" = some descriptor ∧ writtenPayload? nullTable "on" = some payload ∧
        payload.Denotes .null ∧ descriptor.payload ≠ some .null := by
  constructor
  · have hwhole : ((Yaml.Document.within 200 (Yaml.tokenize deepTable)).alone &&
        (Yaml.Document.within 200 (Yaml.tokenize deepTable)).root.any fun doc =>
          (isOutline doc && payloadsAreJson doc) && (ofTree doc).toOption.isSome) = true := by
      rw [tokenize_deepTable]
      decide +kernel
    have hfollowed : ((Yaml.Document.parse deepTable).alone &&
        (Yaml.Document.parse deepTable).root.any fun doc =>
          (ofTree doc).toOption.isNone) = true := by
      rw [Yaml.Document.parse_eq_within, tokenize_deepTable]
      decide +kernel
    obtain ⟨doc, hdoc, h⟩ := Yaml.Document.exists_root hwhole
    obtain ⟨hinside, hread⟩ := Bool.and_eq_true_iff.mp h
    obtain ⟨houtline, hjson⟩ := Bool.and_eq_true_iff.mp hinside
    obtain ⟨table, htable⟩ := Option.isSome_iff_exists.mp hread
    obtain ⟨hgrammar, -, -⟩ := declared_of_ofTree houtline (eq_ok_of_toOption htable)
    refine ⟨doc, hdoc, houtline, hjson, hgrammar, ?_⟩
    rintro ⟨table, htable⟩
    obtain ⟨doc, hdoc, hnone⟩ := Yaml.Document.exists_root hfollowed
    rw [(parse_eq_ok_iff hdoc).mp htable] at hnone
    cases hnone
  · have hinside : ((Yaml.Document.parse nullTable).alone &&
        (Yaml.Document.parse nullTable).root.any fun doc =>
          isOutline doc && payloadsAreJson doc) = true := by
      decide +kernel
    have hread : (parse nullTable).toOption.any (fun table =>
        (table.get? "on").any fun descriptor => descriptor.payload.isNone) = true := by
      decide +kernel
    have hwritten : (writtenPayload? nullTable "on").any Tree.isNull = true := by decide +kernel
    obtain ⟨table, htable, hentry⟩ := (Option.any_eq_true _ _).mp hread
    obtain ⟨descriptor, hdescriptor, hnone⟩ := (Option.any_eq_true _ _).mp hentry
    obtain ⟨payload, hpayload, hnull⟩ := (Option.any_eq_true _ _).mp hwritten
    obtain ⟨doc, hdoc, h⟩ := Yaml.Document.exists_root hinside
    obtain ⟨houtline, hjson⟩ := Bool.and_eq_true_iff.mp h
    refine ⟨doc, hdoc, houtline, hjson, table, descriptor, payload, eq_ok_of_toOption htable,
      hdescriptor, hpayload, Tree.denotes_null hnull, ?_⟩
    rw [Option.isNone_iff_eq_none.mp hnone]
    exact nofun

end Table

end Stimulus
