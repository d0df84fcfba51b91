import Stimulus.Proofs.Yaml.Payload
import Stimulus.Table.Reader

/-! Payloads from the text of a table to its entries.  Records are read field by field, so what a
field adds is still there at the end.  The payload of an entry is thus the JSON form of the tree
that stands under `payload` in the last entry of that identifier. -/

namespace Stimulus

/-! ### Fields -/

namespace Decode

variable {κ σ δ : Type} {keys : Keys κ} {place : Place} {known : List String}
  {has : δ → String → Bool} {add : δ → String → Place → σ → Except Error δ}
  {fields : List (κ × σ)} {draft result : δ}

theorem readFields_cons_eq_ok_iff {key : κ} {value : σ} :
    readFields keys place known has add draft ((key, value) :: fields) = .ok result ↔
      ∃ name next, keys.name key = .ok name ∧ name ∈ known ∧ has draft name = false ∧
        add draft name (keys.member key) value = .ok next ∧
        readFields keys place known has add next fields = .ok result := by
  rw [readFields, bind_eq_ok_iff]
  refine exists_congr fun name => ?_
  by_cases hknown : name ∈ known
  · cases has draft name <;> simp [hknown, bind_eq_ok_iff, Decode.fail]
  · simp [hknown, Decode.fail]

/-- What each field that is added keeps, a record has in the end. -/
theorem readFields_induct {P : δ → Prop}
    (hadd : ∀ draft key value name next, (key, value) ∈ fields → keys.name key = .ok name →
      has draft name = false → add draft name (keys.member key) value = .ok next → P draft → P next)
    (h : readFields keys place known has add draft fields = .ok result) (hdraft : P draft) :
    P result := by
  induction fields generalizing draft with
  | nil =>
    rw [readFields] at h
    cases h
    exact hdraft
  | cons field fields ih =>
    obtain ⟨key, value⟩ := field
    obtain ⟨name, next, hname, -, hhas, hnext, h⟩ := readFields_cons_eq_ok_iff.mp h
    refine ih (fun draft key value name next hmem => ?_) h ?_
    · exact hadd draft key value name next (.tail _ hmem)
    · exact hadd draft key value name next (.head _) hname hhas hnext hdraft

section

variable {name : String} {P : δ → Prop} (hhas : ∀ draft, P draft → has draft name = true)
  (hkeep : ∀ draft other place value next, other ≠ name → P draft →
    add draft other place value = .ok next → P next)

include hhas hkeep

/-- A field that is there keeps its value. -/
theorem readFields_keep (h : readFields keys place known has add draft fields = .ok result)
    (hdraft : P draft) : P result := by
  refine readFields_induct (fun draft key value other next _ _ hother hnext hdraft => ?_) h hdraft
  have hne : other ≠ name := by
    rintro rfl
    rw [hhas draft hdraft] at hother
    cases hother
  exact hkeep draft other _ value next hne hdraft hnext

theorem readFields_of_mem {key : κ} {value : σ}
    (h : readFields keys place known has add draft fields = .ok result)
    (hmem : (key, value) ∈ fields) (hname : keys.name key = .ok name)
    (hadd : ∀ draft next, add draft name (keys.member key) value = .ok next → P next) :
    P result := by
  induction fields generalizing draft with
  | nil => cases hmem
  | cons field fields ih =>
    obtain ⟨key', value'⟩ := field
    obtain ⟨other, next, hother, -, -, hnext, hrest⟩ := readFields_cons_eq_ok_iff.mp h
    rcases List.mem_cons.mp hmem with heq | hmem
    · obtain ⟨rfl, rfl⟩ := Prod.mk.inj heq
      obtain rfl := Except.ok.inj (hname.symm.trans hother)
      exact readFields_keep hhas hkeep hrest (hadd draft next hnext)
    · exact ih hrest hmem

end

/-- A field is read from what stands under its name. -/
theorem exists_read_of_mem {β : Type} {name : String} {read : Place → σ → Except Error β}
    {field : δ → Option β} {key : κ} {value : σ}
    (hhas : ∀ draft, (field draft).isSome → has draft name = true)
    (hkeep : ∀ draft other place value next, other ≠ name →
      add draft other place value = .ok next → field next = field draft)
    (hadd : ∀ draft place value next, add draft name place value = .ok next →
      ∃ found, read place value = .ok found ∧ field next = some found)
    (h : readFields keys place known has add draft fields = .ok result)
    (hmem : (key, value) ∈ fields) (hname : keys.name key = .ok name) :
    ∃ place found, read place value = .ok found ∧ field result = some found := by
  refine readFields_of_mem
    (P := fun draft => ∃ place found, read place value = .ok found ∧ field draft = some found)
    ?_ ?_ h hmem hname fun draft next hnext => ⟨_, hadd draft _ value next hnext⟩
  · rintro draft ⟨_, found, -, hfound⟩
    exact hhas draft (by simp [hfound])
  · rintro draft other _ _ next hother ⟨place, found, hread, hfound⟩ hnext
    exact ⟨place, found, hread, (hkeep draft other _ _ next hother hnext).trans hfound⟩

end Decode

/-! ### Trees -/

namespace Yaml.Tree

/-- What stands in a mapping under the last key of that text. -/
def under? (name : String) : Tree → Option Tree
  | .mapping _ entries =>
    entries.findSomeRev? fun entry =>
      if entry.1.scalarText? = some name then some entry.2.2 else none
  | _ => none

theorem exists_entry_of_findSomeRev? {entries : List (Tree × Option String × Tree)} {name : String}
    {value : Tree}
    (h : (entries.findSomeRev? fun entry =>
      if entry.1.scalarText? = some name then some entry.2.2 else none) = some value) :
    ∃ key label, (key, label, value) ∈ entries ∧ key.scalarText? = some name := by
  rw [List.findSomeRev?_eq_findSome?_reverse] at h
  obtain ⟨⟨key, label, tree⟩, hmem, hfound⟩ := List.exists_of_findSome?_eq_some h
  split at hfound
  · rename_i hkey
    cases hfound
    exact ⟨key, label, List.mem_reverse.mp hmem, hkey⟩
  · cases hfound

/-- What stands under a name is among the fields of a record. -/
theorem exists_field_of_under? {tree value : Tree} {name : String}
    (h : tree.under? name = some value) {expected : String} {place : Decode.Place}
    {fields : List ((Tree × Option String) × Tree)}
    (hfields : tree.readEntries expected place = .ok fields) :
    ∃ key, (key, value) ∈ fields ∧ (keys place).name key = .ok name := by
  cases tree with
  | scalar _ _ _ | sequence _ _ | broken => cases h
  | mapping tag entries =>
    obtain ⟨key, label, hmem, hkey⟩ := exists_entry_of_findSomeRev? h
    cases hfields
    refine ⟨(key, label), ?_, readText_eq_ok_iff.mpr hkey⟩
    exact List.mem_map.mpr ⟨_, hmem, rfl⟩

theorem exists_under?_of_field {tree value : Tree} {name expected : String} {place : Decode.Place}
    {fields : List ((Tree × Option String) × Tree)} {key : Tree × Option String}
    (hfields : tree.readEntries expected place = .ok fields) (hmem : (key, value) ∈ fields)
    (hname : (keys place).name key = .ok name) : ∃ value, tree.under? name = some value := by
  cases tree with
  | sequence _ _ | broken => cases hfields
  | scalar tag text style =>
    by_cases hempty : text.isEmpty ∧ style = .plain
    · rw [readEntries, entries?, if_pos hempty] at hfields
      cases hfields
      cases hmem
    · rw [readEntries, entries?, if_neg hempty] at hfields
      cases hfields
  | mapping tag entries =>
    cases hfields
    obtain ⟨entry, hentry, heq⟩ := List.mem_map.mp hmem
    obtain ⟨rfl, rfl⟩ := Prod.mk.inj heq
    have hkey : entry.1.scalarText? = some name := readText_eq_ok_iff.mp hname
    rw [← Option.isSome_iff_exists, under?, List.findSomeRev?_eq_findSome?_reverse,
      List.findSome?_isSome_iff]
    exact ⟨entry, List.mem_reverse.mpr hentry, by simp [hkey]⟩

end Yaml.Tree

/-! ### Entries -/

namespace Descriptor

theorem Draft.payload_of_add {draft next : Draft} {name : String} {place : Decode.Place}
    {value : Yaml.Tree} (hname : name ≠ "payload")
    (h : draft.add Yaml.Tree.source name place value = .ok next) :
    next.payload = draft.payload := by
  unfold Draft.add at h
  split at h
  case h_5 => exact absurd rfl hname
  case h_7 =>
    cases h
    rfl
  all_goals
    obtain ⟨_, -, h⟩ := bind_eq_ok_iff.mp h
    cases h
    rfl

theorem exists_value?_of_ofTree {place : Decode.Place} {entry tree : Yaml.Tree}
    {descriptor : Descriptor} (h : ofTree place entry = .ok descriptor)
    (htree : entry.under? "payload" = some tree) :
    ∃ place, Yaml.Tree.source.value? place tree = .ok descriptor.payload := by
  obtain ⟨fields, hfields, h⟩ := bind_eq_ok_iff.mp h
  obtain ⟨draft, hdraft, h⟩ := bind_eq_ok_iff.mp h
  obtain ⟨key, hmem, hname⟩ := Yaml.Tree.exists_field_of_under? htree hfields
  obtain ⟨place, payload, hpayload, hdraft⟩ :
      ∃ place payload, Yaml.Tree.source.value? place tree = .ok payload ∧
        draft.payload = some payload := by
    refine Decode.exists_read_of_mem (fun _ hpayload => hpayload)
      (fun _ _ _ _ _ => Draft.payload_of_add) ?_ hdraft hmem hname
    intro draft place value next hnext
    obtain ⟨payload, hpayload, hnext⟩ := bind_eq_ok_iff.mp hnext
    cases hnext
    exact ⟨payload, hpayload, rfl⟩
  unfold Draft.finish at h
  split at h
  · cases h
  · cases h
  · cases h
    exact ⟨place, by rw [hpayload, hdraft]; rfl⟩

end Descriptor

namespace Table

/-- The payload that the text of a table writes for an entry. -/
def writtenPayload? (text id : String) : Option Yaml.Tree := do
  let doc ← (Yaml.Document.parse text).root
  let entries ← doc.under? "test_cases"
  let entry ← entries.under? id
  entry.under? "payload"

theorem Draft.entries_of_add {draft next : Draft} {name : String} {place : Decode.Place}
    {value : Yaml.Tree} (hname : name ≠ "test_cases")
    (h : draft.add name place value = .ok next) : next.entries = draft.entries := by
  unfold Draft.add at h
  split at h
  · obtain ⟨_, -, h⟩ := bind_eq_ok_iff.mp h
    cases h
    rfl
  · exact absurd rfl hname
  · cases h
    rfl

theorem exists_entries_of_ofTree {doc entries : Yaml.Tree} {table : Table}
    (h : ofTree doc = .ok table) (hentries : doc.under? "test_cases" = some entries) :
    ∃ place pairs, Draft.readEntries place entries = .ok pairs ∧
      table.entries = Keyed.ofList pairs := by
  obtain ⟨fields, hfields, h⟩ := bind_eq_ok_iff.mp h
  obtain ⟨draft, hdraft, h⟩ := bind_eq_ok_iff.mp h
  obtain ⟨key, hmem, hname⟩ := Yaml.Tree.exists_field_of_under? hentries hfields
  obtain ⟨place, pairs, hpairs, hdraft⟩ :
      ∃ place pairs, Draft.readEntries place entries = .ok pairs ∧
        draft.entries = some pairs := by
    refine Decode.exists_read_of_mem (fun _ hpairs => hpairs)
      (fun _ _ _ _ _ => Draft.entries_of_add) ?_ hdraft hmem hname
    intro draft place value next hnext
    obtain ⟨pairs, hpairs, hnext⟩ := bind_eq_ok_iff.mp hnext
    cases hnext
    exact ⟨pairs, hpairs, rfl⟩
  rw [Draft.finish, hdraft] at h
  cases h
  exact ⟨place, pairs, hpairs, rfl⟩

/-- The last of the entries with an identifier is the one in the table. -/
theorem rel_ofTree {place : Decode.Place} {entries : List (Yaml.Tree × Option String × Yaml.Tree)}
    {pairs : List (String × Descriptor)} (id : String)
    (h : List.Forall₂ (fun entry pair => entry.1.scalarText? = some pair.1 ∧
      Descriptor.ofTree (.member place entry.2.1) entry.2.2 = .ok pair.2) entries pairs) :
    Option.Rel (fun entry descriptor => ∃ place, Descriptor.ofTree place entry = .ok descriptor)
      (entries.findSomeRev? fun entry =>
        if entry.1.scalarText? = some id then some entry.2.2 else none)
      (pairs.findSomeRev? fun pair => if id = pair.1 then some pair.2 else none) := by
  induction h with
  | nil => exact .none
  | @cons entry pair _ _ hfirst _ ih =>
    rw [List.findSomeRev?, List.findSomeRev?]
    revert ih
    generalize List.findSomeRev? _ _ = found
    generalize List.findSomeRev? _ _ = kept
    intro ih
    cases ih with
    | some h => exact .some h
    | none =>
      dsimp only
      rw [hfirst.1]
      simp only [Option.some.injEq]
      by_cases hid : pair.1 = id
      · rw [if_pos hid, if_pos hid.symm]
        exact .some ⟨_, hfirst.2⟩
      · rw [if_neg hid, if_neg (Ne.symm hid)]
        exact .none

/-- The entries of a mapping are read one for one. -/
theorem exists_entries_of_readEntries {place : Decode.Place} {tree : Yaml.Tree}
    {pairs : List (String × Descriptor)} (h : Draft.readEntries place tree = .ok pairs) :
    ∃ entries, tree.entries? = some entries ∧
      List.Forall₂ (fun entry pair => entry.1.scalarText? = some pair.1 ∧
        Descriptor.ofTree (.member place entry.2.1) entry.2.2 = .ok pair.2) entries pairs := by
  obtain ⟨fields, hfields, h⟩ := bind_eq_ok_iff.mp h
  rw [Yaml.Tree.readEntries] at hfields
  split at hfields
  case h_2 => cases hfields
  case h_1 entries hentries =>
    cases hfields
    rw [mapM_eq_ok_iff, List.forall₂_map_left_iff] at h
    refine ⟨entries, hentries, h.imp fun entry pair h => ?_⟩
    obtain ⟨name, hname, h⟩ := bind_eq_ok_iff.mp h
    obtain ⟨descriptor, hdescriptor, h⟩ := bind_eq_ok_iff.mp h
    cases h
    exact ⟨Yaml.Tree.readText_eq_ok_iff.mp hname, hdescriptor⟩

theorem ofTree_of_under? {place : Decode.Place} {entries entry : Yaml.Tree}
    {pairs : List (String × Descriptor)} {id : String} {descriptor : Descriptor}
    (h : Draft.readEntries place entries = .ok pairs) (hentry : entries.under? id = some entry)
    (hget : Keyed.get? id (Keyed.ofList pairs) = some descriptor) :
    ∃ place, Descriptor.ofTree place entry = .ok descriptor := by
  cases entries with
  | scalar _ _ _ | sequence _ _ | broken => cases hentry
  | mapping tag entries =>
    obtain ⟨_, hentries, hread⟩ := exists_entries_of_readEntries h
    cases hentries
    have hpairs := rel_ofTree id hread
    rw [Yaml.Tree.under?] at hentry
    rw [Keyed.get?_ofList] at hget
    rw [hentry, hget] at hpairs
    cases hpairs with
    | some h => exact h

/-- A table is read from the one document of its text. -/
theorem ofTree_of_parse {text : String} {table : Table} (h : parse text = .ok table) :
    ofTree ((Yaml.Document.parse text).root.getD (.scalar none "" .plain)) = .ok table := by
  obtain ⟨read, hread, h⟩ := bind_eq_ok_iff.mp (mapError_eq_ok_iff.mp h)
  split at h
  · cases h
    exact hread
  · cases h

/-- The payload of an entry is what is read from the tree that is written for it. -/
theorem exists_value?_of_parse {text id : String} {table : Table} {descriptor : Descriptor}
    {tree : Yaml.Tree} (htable : parse text = .ok table) (hget : table.get? id = some descriptor)
    (htree : writtenPayload? text id = some tree) :
    ∃ place, Yaml.Tree.source.value? place tree = .ok descriptor.payload := by
  obtain ⟨doc, hdoc, htree⟩ := Option.bind_eq_some_iff.mp htree
  obtain ⟨entries, hentries, htree⟩ := Option.bind_eq_some_iff.mp htree
  obtain ⟨entry, hentry, htree⟩ := Option.bind_eq_some_iff.mp htree
  have hread := ofTree_of_parse htable
  rw [hdoc, Option.getD_some] at hread
  obtain ⟨place, pairs, hpairs, htable⟩ := exists_entries_of_ofTree hread hentries
  rw [get?, htable] at hget
  obtain ⟨place, hentry⟩ := ofTree_of_under? hpairs hentry hget
  exact Descriptor.exists_value?_of_ofTree hentry htree

end Table

end Stimulus
