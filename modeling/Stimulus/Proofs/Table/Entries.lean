import Stimulus.Proofs.Table.Payload
import Stimulus.Proofs.Yaml.Place

/-! The entries of a table and those that its text writes.  Every entry that is written is read, but
the table has one for each identifier, the last that is written.  So nothing is lost exactly if no
two keys have the same text, and a text that writes an identifier twice is not refused. -/

namespace Stimulus.Table

variable {table : Table} {text : String}

/-- The entries that stand in a mapping, by the texts of their keys, each read on its own. -/
def entriesIn? (tree : Yaml.Tree) : Option (List (String × Descriptor)) := do
  let entries ← tree.entries?
  entries.mapM fun (key, _, value) => do
    return (← key.scalarText?, ← (Descriptor.ofTree .root value).toOption)

/-- The entries that the text of a table writes under `test_cases`. -/
def writtenEntries? (text : String) : Option (List (String × Descriptor)) := do
  let doc ← (Yaml.Document.parse text).root
  let tree ← doc.under? "test_cases"
  entriesIn? tree

/-! ### From the text to the table -/

/-- A record without the field of the entries is no table. -/
theorem exists_under?_of_ofTree {doc : Yaml.Tree} (h : ofTree doc = .ok table) :
    ∃ tree, doc.under? "test_cases" = some tree := by
  obtain ⟨fields, hfields, h⟩ := bind_eq_ok_iff.mp h
  obtain ⟨draft, hdraft, h⟩ := bind_eq_ok_iff.mp h
  by_contra hnone
  -- No other field adds entries, so the draft has none in the end.
  have hunread : draft.entries = none := by
    refine Decode.readFields_induct (P := fun draft => draft.entries = none) ?_ hdraft rfl
    intro draft key value name next hmem hname _ hnext hdraft
    have hother : name ≠ "test_cases" := by
      rintro rfl
      exact hnone (Yaml.Tree.exists_under?_of_field hfields hmem hname)
    exact (Draft.entries_of_add hother hnext).trans hdraft
  rw [Draft.finish, hunread] at h
  cases h

theorem entriesIn?_of_readEntries {place : Decode.Place} {tree : Yaml.Tree}
    {pairs : List (String × Descriptor)} (h : Draft.readEntries place tree = .ok pairs) :
    entriesIn? tree = some pairs := by
  obtain ⟨entries, hentries, hread⟩ := exists_entries_of_readEntries h
  rw [entriesIn?, hentries]
  show entries.mapM _ = some pairs
  clear h hentries
  induction hread with
  | nil => rfl
  | @cons entry pair entries pairs hfirst _ ih =>
    obtain ⟨hid, hdescriptor⟩ := hfirst
    have hdescriptor : Descriptor.ofTree .root entry.2.2 = .ok pair.2 :=
      (Descriptor.ofTree_agree _ .root entry.2.2).eq_ok hdescriptor
    rw [List.mapM_cons, ih]
    simp [hid, hdescriptor, Except.toOption]

/-- The entries of a table are those that its text writes, the last one of each identifier. -/
theorem exists_writtenEntries_of_parse (h : parse text = .ok table) :
    ∃ pairs, writtenEntries? text = some pairs ∧ table.entries = Keyed.ofList pairs := by
  have hread := ofTree_of_parse h
  obtain ⟨tree, htree⟩ := exists_under?_of_ofTree hread
  obtain ⟨place, pairs, hpairs, hentries⟩ := exists_entries_of_ofTree hread htree
  refine ⟨pairs, ?_, hentries⟩
  cases hdoc : (Yaml.Document.parse text).root with
  | none =>
    rw [hdoc] at htree
    cases htree
  | some doc =>
    rw [hdoc, Option.getD_some] at htree
    rw [writtenEntries?, hdoc]
    show (doc.under? "test_cases").bind entriesIn? = some pairs
    rw [htree]
    exact entriesIn?_of_readEntries hpairs

/-! ### What is kept -/

theorem get_eq_ok_iff {id : String} {descriptor : Descriptor} :
    table.get id = .ok descriptor ↔ table.get? id = some descriptor := by
  rw [get]
  cases table.get? id <;> simp

/-- Of several entries with one identifier the last one stands. -/
theorem get_of_last {front rest : List (String × Descriptor)} {pair : String × Descriptor}
    (hentries : table.entries = Keyed.ofList (front ++ pair :: rest))
    (hlast : pair.1 ∉ rest.map (·.1)) : table.get pair.1 = .ok pair.2 := by
  have hrest : (rest.reverse.findSome? fun other =>
      if pair.1 = other.1 then some other.2 else none) = none := by
    rw [List.findSome?_eq_none_iff]
    intro other hother
    have hne : pair.1 ≠ other.1 := fun heq =>
      hlast (heq ▸ List.mem_map_of_mem (List.mem_reverse.mp hother))
    exact if_neg hne
  rw [get_eq_ok_iff, get?, hentries, Keyed.get?_ofList, List.findSomeRev?_eq_findSome?_reverse,
    List.reverse_append, List.reverse_cons, List.append_assoc, List.findSome?_append, hrest]
  simp

theorem get_of_nodup {pairs : List (String × Descriptor)} {pair : String × Descriptor}
    (hentries : table.entries = Keyed.ofList pairs) (hdistinct : (pairs.map (·.1)).Nodup)
    (hpair : pair ∈ pairs) : table.get pair.1 = .ok pair.2 := by
  have hmem : pair ∈ table.entries := by
    rw [hentries]
    exact (Keyed.perm_ofList hdistinct).mem_iff.mpr hpair
  exact get_eq_ok_iff.mpr (Keyed.get?_of_mem table.sorted hmem)

/-- A table has every entry that its text writes, and no fewer, exactly if no identifier is written
twice.  The last entry of an identifier stands in any case, and the table has one for each. -/
theorem parse_keeps_iff (h : parse text = .ok table) :
    ∃ pairs, writtenEntries? text = some pairs ∧
      (((∀ pair ∈ pairs, table.get pair.1 = .ok pair.2) ∧ table.size = pairs.length) ↔
        (pairs.map (·.1)).Nodup) ∧
      (∀ front pair rest, pairs = front ++ pair :: rest → pair.1 ∉ rest.map (·.1) →
        table.get pair.1 = .ok pair.2) ∧
      table.size = (pairs.map (·.1)).dedup.length := by
  obtain ⟨pairs, hpairs, hentries⟩ := exists_writtenEntries_of_parse h
  have hsize : table.size = (Keyed.ofList pairs).length := by rw [size, hentries]
  refine ⟨pairs, hpairs, ⟨fun hkept => ?_, fun hdistinct => ⟨fun pair hpair => ?_, ?_⟩⟩, ?_, ?_⟩
  · exact Keyed.length_ofList_eq_iff.mp (hsize.symm.trans hkept.2)
  · exact get_of_nodup hentries hdistinct hpair
  · exact hsize.trans (Keyed.length_ofList_eq_iff.mpr hdistinct)
  · rintro front pair rest rfl hlast
    exact get_of_last hentries hlast
  · rw [hsize, Keyed.length_ofList]

/-- A table whose identifiers look alike. -/
def similarTable : String :=
  "test_cases:\n  '01': \x7bmethod: GET, path: /3/0\x7d\n  1: \x7bmethod: DELETE, path: /3/0\x7d\n" ++
    "  \"1 \": \x7bmethod: GET, path: /3/1\x7d\n"

theorem parse_keeps_similar :
    ∃ table pairs, parse similarTable = .ok table ∧ writtenEntries? similarTable = some pairs ∧
      pairs.map (·.1) = ["01", "1", "1 "] ∧
      (∀ pair ∈ pairs, table.get pair.1 = .ok pair.2) ∧ table.size = 3 := by
  have hparsed : (parse similarTable).toOption.isSome = true := by decide +kernel
  have hwritten : (writtenEntries? similarTable).any
      (fun pairs => pairs.map (·.1) = ["01", "1", "1 "]) = true := by decide +kernel
  obtain ⟨table, htable⟩ := Option.isSome_iff_exists.mp hparsed
  have htable := eq_ok_of_toOption htable
  obtain ⟨pairs, hpairs, hids⟩ := (Option.any_eq_true _ _).mp hwritten
  have hids : pairs.map (·.1) = ["01", "1", "1 "] := of_decide_eq_true hids
  obtain ⟨pairs', hpairs', hkept, -⟩ := parse_keeps_iff htable
  obtain rfl := Option.some.inj (hpairs.symm.trans hpairs')
  obtain ⟨hget, hsize⟩ := hkept.mpr (by rw [hids]; decide)
  have hlength : pairs.length = 3 := by simpa using congrArg List.length hids
  exact ⟨table, pairs, htable, hpairs, hids, hget, hsize.trans hlength⟩

/-- A table that writes one identifier twice, as a number and in quotes. -/
def rewrittenTable : String :=
  "test_cases:\n  1: \x7bmethod: GET, path: /3/0\x7d\n  \"1\": \x7bmethod: DELETE, path: /3/0\x7d\n"

/-- The table is read and has no problems, but its first entry is lost: where a value was to be
read, the client's object is deleted. -/
theorem not_parse_keeps :
    ∃ table pairs, parse rewrittenTable = .ok table ∧
      writtenEntries? rewrittenTable = some pairs ∧
      pairs.map (fun pair => (pair.1, pair.2.method)) = [("1", .get), ("1", .delete)] ∧
      (table.get "1").toOption.map (·.method) = some .delete ∧
      table.size = 1 ∧ table.validate = [] ∧
      ¬∀ pair ∈ pairs, table.get pair.1 = .ok pair.2 := by
  have hparsed : (parse rewrittenTable).toOption.any (fun table =>
      (table.get "1").toOption.map (·.method) = some .delete ∧ table.size = 1 ∧
        table.validate = []) = true := by decide +kernel
  have hwritten : (writtenEntries? rewrittenTable).any (fun pairs =>
      pairs.map (fun pair => (pair.1, pair.2.method)) = [("1", .get), ("1", .delete)]) = true := by
    decide +kernel
  obtain ⟨table, htable, hkept⟩ := (Option.any_eq_true _ _).mp hparsed
  obtain ⟨pairs, hpairs, hmethods⟩ := (Option.any_eq_true _ _).mp hwritten
  obtain ⟨hmethod, hsize, hvalid⟩ := of_decide_eq_true hkept
  have hmethods : pairs.map (fun pair => (pair.1, pair.2.method)) =
      [("1", .get), ("1", .delete)] := of_decide_eq_true hmethods
  refine ⟨table, pairs, eq_ok_of_toOption htable, hpairs, hmethods, hmethod, hsize, hvalid, ?_⟩
  intro hall
  obtain ⟨pair, hpair, hfirst⟩ :
      ∃ pair ∈ pairs, (pair.1, pair.2.method) = ("1", Method.get) := by
    rw [← List.mem_map, hmethods]
    exact .head _
  obtain ⟨hid, hget⟩ := Prod.mk.inj hfirst
  rw [← hid, hall pair hpair] at hmethod
  have hdelete : pair.2.method = .delete := Option.some.inj hmethod
  rw [hget] at hdelete
  cases hdelete

end Stimulus.Table
