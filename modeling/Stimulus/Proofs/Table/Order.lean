import Stimulus.Proofs.Command
import Stimulus.Proofs.Table.Grammar
import Stimulus.Proofs.Text.Order

/-! The order of entries and fields.  Two documents that write the same entries in different orders,
and the fields of an entry in different orders, are both refused or give tables with the same
entries.  A table lists its entries in the order of the bytes of their identifiers. -/

namespace Stimulus

open Yaml (Tree)

namespace Table

variable {doc doc' cases cases' : Tree} {table table' : Table}

/-! ### The same entries -/

/-- The same fields in any order. -/
def SameFields (entry entry' : Tree) : Prop :=
  entry = entry' ∨ entry.Shuffled entry'

/-- The same entry under the same identifier. -/
def SameEntry (pair pair' : Option String × Tree) : Prop :=
  pair.1 = pair'.1 ∧ SameFields pair.2 pair'.2

/-- The same entries in any order, each with the same fields; no identifier comes twice. -/
def SameEntries (cases cases' : Tree) : Prop :=
  ∃ entries entries', cases.entries? = some entries ∧ cases'.entries? = some entries' ∧
    ((Tree.pairs entries).map (·.1)).Nodup ∧
    ∃ between, List.Forall₂ SameEntry (Tree.pairs entries) between ∧
      between.Perm (Tree.pairs entries')

/-- Two documents with the same entries.  Both have known fields only, or neither has, and where
their names differ both are scalars. -/
structure Reordered (doc doc' : Tree) : Prop where
  record : doc.IsRecord ["name", "test_cases"] ↔ doc'.IsRecord ["name", "test_cases"]
  name : doc.under? "name" = doc'.under? "name" ∨
    (doc.under? "name").all Tree.isWord = true ∧ (doc'.under? "name").all Tree.isWord = true
  entries : Option.Rel SameEntries (doc.under? "test_cases") (doc'.under? "test_cases")

theorem SameFields.symm {entry entry' : Tree} (h : SameFields entry entry') :
    SameFields entry' entry :=
  h.imp Eq.symm Tree.Shuffled.symm

theorem SameEntry.symm {pair pair' : Option String × Tree} (h : SameEntry pair pair') :
    SameEntry pair' pair :=
  ⟨h.1.symm, h.2.symm⟩

theorem map_fst_eq {pairs pairs' : List (Option String × Tree)}
    (h : List.Forall₂ SameEntry pairs pairs') : pairs.map (·.1) = pairs'.map (·.1) := by
  rw [← List.forall₂_eq_eq_eq, List.forall₂_map_left_iff, List.forall₂_map_right_iff]
  exact h.imp fun _ _ h => h.1

theorem SameEntries.symm (h : SameEntries cases cases') : SameEntries cases' cases := by
  obtain ⟨entries, entries', hentries, hentries', hdistinct, between, hsame, hperm⟩ := h
  have hflip : List.Forall₂ SameEntry between (Tree.pairs entries) :=
    (hsame.imp fun _ _ h => h.symm).flip
  obtain ⟨between', hsame', hperm'⟩ := List.perm_comp_forall₂ hperm.symm hflip
  refine ⟨entries', entries, hentries', hentries, ?_, between', hsame', hperm'⟩
  rw [map_fst_eq hsame] at hdistinct
  exact ((hperm.map (·.1)).nodup_iff).mp hdistinct

theorem Reordered.symm (h : Reordered doc doc') : Reordered doc' doc where
  record := h.record.symm
  name := h.name.imp Eq.symm And.symm
  entries := by
    have hentries := h.entries
    generalize doc.under? "test_cases" = under at hentries
    generalize doc'.under? "test_cases" = under' at hentries
    cases hentries with
    | none => exact .none
    | some hsame => exact .some hsame.symm

/-! ### The same tables -/

theorem forall₂_of_same {pairs pairs' : List (Option String × Tree)}
    {found : List (String × Descriptor)}
    (hsame : List.Forall₂ SameEntry pairs pairs')
    (hread : List.Forall₂ (fun entry pair => entry.1 = some pair.1 ∧
      Descriptor.ofTree .root entry.2 = .ok pair.2) pairs found) :
    List.Forall₂ (fun entry pair => entry.1 = some pair.1 ∧
      Descriptor.ofTree .root entry.2 = .ok pair.2) pairs' found := by
  induction hsame generalizing found with
  | nil =>
    cases hread
    exact .nil
  | @cons pair pair' _ _ hfirst _ ih =>
    cases hread with
    | cons hentry hrest =>
      refine .cons ⟨hfirst.1 ▸ hentry.1, ?_⟩ (ih hrest)
      rcases hfirst.2 with heq | hshuffled
      · rw [← heq]
        exact hentry.2
      · exact (Descriptor.ofTree_shuffled hshuffled .root).eq_ok hentry.2

/-- The same entries are read from both mappings, in another order. -/
theorem SameEntries.exists_perm (h : SameEntries cases cases') {pairs : List (String × Descriptor)}
    (hread : HoldsEntries cases pairs) :
    ∃ pairs', HoldsEntries cases' pairs' ∧ pairs.Perm pairs' ∧ (pairs.map (·.1)).Nodup := by
  obtain ⟨entries, entries', hentries, hentries', hdistinct, between, hsame, hperm⟩ := h
  obtain ⟨_, heq, hall⟩ := Draft.readEntries_eq_ok_iff.mp hread
  obtain rfl := Option.some.inj (hentries.symm.trans heq)
  obtain ⟨pairs', hall', hpairs⟩ :=
    List.perm_comp_forall₂ hperm.symm (forall₂_of_same hsame hall)
  refine ⟨pairs', Draft.readEntries_eq_ok_iff.mpr ⟨entries', hentries', hall'⟩, hpairs.symm, ?_⟩
  have hkeys : (Tree.pairs entries).map (·.1) = (pairs.map (·.1)).map some := by
    rw [← List.forall₂_eq_eq_eq, List.map_map, List.forall₂_map_left_iff,
      List.forall₂_map_right_iff]
    exact hall.imp fun _ _ h => h.1
  rw [hkeys] at hdistinct
  exact hdistinct.of_map some

theorem Reordered.exists_name (h : Reordered doc doc') {name : Option (Option String)}
    (hname : doc.Field Descriptor.HoldsText? "name" name) :
    ∃ name', doc'.Field Descriptor.HoldsText? "name" name' := by
  rcases h.name with heq | ⟨-, hword⟩
  · rw [Tree.Field, heq] at hname
    exact ⟨name, hname⟩
  · exact ⟨_, (Descriptor.field_text?_iff hword).mpr rfl⟩

theorem Reordered.exists_entries (h : Reordered doc doc') {pairs : List (String × Descriptor)}
    (hpairs : doc.Field HoldsEntries "test_cases" (some pairs)) :
    ∃ pairs', doc'.Field HoldsEntries "test_cases" (some pairs') ∧
      Keyed.ofList pairs = Keyed.ofList pairs' := by
  have hentries := h.entries
  unfold Tree.Field at hpairs ⊢
  generalize doc.under? "test_cases" = under at hentries hpairs
  generalize doc'.under? "test_cases" = under' at hentries
  cases hpairs with
  | some hread =>
    cases hentries with
    | some hsame =>
      obtain ⟨pairs', hread', hperm, hdistinct⟩ := hsame.exists_perm hread
      exact ⟨pairs', .some hread', Keyed.ofList_eq_of_perm hperm hdistinct⟩

/-- If one of the documents is read as a table, the other one is read as a table of the same
entries. -/
theorem Reordered.exists_ofTree (h : Reordered doc doc') (hread : ofTree doc = .ok table) :
    ∃ table', ofTree doc' = .ok table' ∧ table.entries = table'.entries := by
  obtain ⟨draft, hdraft, hfinish⟩ := ofTree_eq_ok_iff.mp hread
  obtain ⟨pairs, hpairs, rfl⟩ := finish_eq_ok_iff.mp hfinish
  obtain ⟨name', hname'⟩ := h.exists_name hdraft.name
  have hentries := hdraft.entries
  rw [hpairs] at hentries
  obtain ⟨pairs', hpairs', hsame⟩ := h.exists_entries hentries
  have hdraft' : Draft.ReadFrom doc' ⟨name', some pairs'⟩ :=
    ⟨h.record.mp hdraft.record, hname', hpairs'⟩
  exact ⟨_, ofTree_eq_ok_iff.mpr ⟨_, hdraft', rfl⟩, hsame⟩

/-! ### What a table is asked for -/

section

variable (h : table.entries = table'.entries)

include h

theorem get_congr (id : String) : table.get id = table'.get id := by
  rw [get, get, get?, get?, h]

theorem walk_congr (start : String) (fuel : Nat) (seen : List String) (id : String) :
    table.walk start fuel seen id = table'.walk start fuel seen id := by
  induction fuel generalizing seen id with
  | zero => rfl
  | succ fuel ih => simp only [walk, get?, h, ih]

theorem chain_congr (id : String) : table.chain id = table'.chain id := by
  rw [chain, chain, size, size, h, walk_congr h]

theorem validate_congr : table.validate = table'.validate := by
  have hproblems (step : Step) : table.entryProblems step = table'.entryProblems step := by
    simp only [entryProblems, linkProblem?, get?, h, chain_congr h]
  rw [validate, validate, h]
  exact List.flatMap_congr fun step _ => hproblems step

theorem listed_congr (start : Option String) :
    Command.listed table start = Command.listed table' start := by
  rw [Command.listed, Command.listed, Command.matching, Command.matching, ids, ids, h]

end

/-! ### Listing -/

theorem ids_pairwise (table : Table) :
    table.ids.Pairwise fun first second => first.toUTF8.data.toList < second.toUTF8.data.toList :=
  List.pairwise_map.mpr (table.sorted.imp Text.utf8_lt_of_lt)

/-- What is printed of a table: the identifiers that start with the text, or that there is none. -/
theorem join_listed (table : Table) (start : Option String) :
    ∃ shown, shown.Sublist table.ids ∧
      (∀ id, id ∈ shown ↔
        id ∈ table.ids ∧ ∀ text, start = some text → text.toList <+: id.toList) ∧
      String.join (Command.listed table start) =
        if shown = [] then "No test cases match\n" else String.join (shown.map (· ++ "\n")) := by
  refine ⟨Command.matching table start, List.filter_sublist, fun id => ?_, ?_⟩
  · rw [Command.matching, List.mem_filter]
    cases start <;> simp
  · rw [Command.listed]
    split
    · rename_i hnone
      rw [hnone]
      rfl
    · rename_i hsome
      rw [if_neg hsome]
      rfl

theorem play_list {files : FileView} {settings : Settings}
    (loaded : settings.loadTable files = .ok table) (palette : Palette) (start : Option String)
    (outcomes : List Outcome) :
    let listed := ((Command.list start).session palette files settings).play outcomes
    listed.value = .ok () ∧ listed.exchanges = [] ∧
      Output.printed listed.events = String.join (Command.listed table start) := by
  intro listed
  obtain ⟨entry, hsession⟩ :=
    Command.withTable_eq loaded fun table => Command.printAll (Command.listed table start)
  have hlisted : listed = ⟨.told (.log entry) ::
      (Command.listed table start).map fun text => .told (.print text), outcomes, .ok ()⟩ := by
    simp only [listed, Command.session, hsession, Session.play_tell, play_printAll]
    rfl
  have hevents : listed.events = .log entry :: (Command.listed table start).map .print := by
    rw [hlisted]
    simp [Session.Played.events, List.filterMap_map]
  refine ⟨by rw [hlisted], ?_, ?_⟩
  · rw [hlisted]
    simp [Session.Played.exchanges, Session.Moment.exchange?]
  · rw [hevents, ← printed_print]
    rfl

/-- Documents with the same entries are both refused, or give tables that answer alike whatever they
are asked.  The identifiers of a table stand in the order of their bytes, each once, and a list
prints those that start with a text, in this order, or that there is none. -/
theorem parse_reordered {text text' : String}
    (hdoc : Yaml.Document.parse text = ⟨some doc, true⟩)
    (hdoc' : Yaml.Document.parse text' = ⟨some doc', true⟩) (h : Reordered doc doc') :
    ((∃ detail detail', parse text = .error (.tableParse detail) ∧
        parse text' = .error (.tableParse detail')) ∨
      ∃ table table', parse text = .ok table ∧ parse text' = .ok table' ∧
        table.ids = table'.ids ∧ (∀ id, table.get id = table'.get id) ∧
        (∀ id, table.chain id = table'.chain id) ∧ table.validate = table'.validate ∧
        ∀ start, Command.listed table start = Command.listed table' start) ∧
    ∀ table : Table,
      (table.ids.Pairwise fun first second =>
        first.toUTF8.data.toList < second.toUTF8.data.toList) ∧
      ∀ files settings, Settings.loadTable settings files = .ok table →
        ∀ palette start outcomes,
          let listed := ((Command.list start).session palette files settings).play outcomes
          listed.value = .ok () ∧ listed.exchanges = [] ∧
          Output.printed listed.events = String.join (Command.listed table start) ∧
          ∃ shown, shown.Sublist table.ids ∧
            (∀ id, id ∈ shown ↔
              id ∈ table.ids ∧ ∀ text, start = some text → text.toList <+: id.toList) ∧
            String.join (Command.listed table start) =
              if shown = [] then "No test cases match\n"
              else String.join (shown.map (· ++ "\n")) := by
  have hfails {text : String} {e : Error} (hparse : parse text = .error e) :
      ∃ detail, parse text = .error (.tableParse detail) := by
    obtain ⟨fault, -, rfl⟩ := mapError_eq_error_iff.mp hparse
    exact ⟨fault.message, hparse⟩
  refine ⟨?_, fun table => ⟨ids_pairwise table, ?_⟩⟩
  · cases hparse : parse text with
    | ok table =>
      obtain ⟨table', hread', hentries⟩ := h.exists_ofTree ((parse_eq_ok_iff hdoc).mp hparse)
      refine .inr ⟨table, table', rfl, (parse_eq_ok_iff hdoc').mpr hread', ?_, get_congr hentries,
        chain_congr hentries, validate_congr hentries, listed_congr hentries⟩
      rw [ids, ids, hentries]
    | error e =>
      cases hparse' : parse text' with
      | error e' =>
        obtain ⟨detail, hdetail⟩ := hfails hparse
        obtain ⟨detail', hdetail'⟩ := hfails hparse'
        exact .inl ⟨detail, detail', hparse ▸ hdetail, hparse' ▸ hdetail'⟩
      | ok table' =>
        obtain ⟨table, hread, -⟩ := h.symm.exists_ofTree ((parse_eq_ok_iff hdoc').mp hparse')
        rw [(parse_eq_ok_iff hdoc).mpr hread] at hparse
        cases hparse
  · intro files settings hloaded palette start outcomes
    obtain ⟨hvalue, hexchanges, hprinted⟩ := play_list hloaded palette start outcomes
    exact ⟨hvalue, hexchanges, hprinted, join_listed table start⟩

@[match_pattern]
def word (text : String) : Tree :=
  .scalar none text .plain

@[match_pattern]
def written (name : String) (value : Tree) : Tree × Option String × Tree :=
  (.scalar none name .plain, some name, value)

@[match_pattern]
def switchDoc : Tree :=
  .mapping none [written "test_cases" (.mapping none [
    written "on" (.mapping none [written "method" (word "PUT"), written "path" (word "/1")]),
    written "is" (.mapping none [written "path" (word "/1"), written "method" (word "GET")])])]

@[match_pattern]
def reorderedDoc : Tree :=
  .mapping none [written "name" (word "switch"), written "test_cases" (.mapping none [
    written "is" (.mapping none [written "method" (word "GET"), written "path" (word "/1")]),
    written "on" (.mapping none [written "method" (word "PUT"), written "path" (word "/1")])])]

def switchText : String :=
  "test_cases:\n  on:\n    method: PUT\n    path: /1\n  is:\n    path: /1\n    method: GET\n"

def reorderedText : String :=
  "name: switch\ntest_cases:\n  is:\n    method: GET\n    path: /1\n" ++
    "  on:\n    method: PUT\n    path: /1\n"

def isSwitchDoc : Tree → Bool
  | switchDoc => true
  | _ => false

def isReorderedDoc : Tree → Bool
  | reorderedDoc => true
  | _ => false

theorem parse_switchText : Yaml.Document.parse switchText = ⟨some switchDoc, true⟩ := by
  have hwritten : ((Yaml.Document.parse switchText).alone &&
      (Yaml.Document.parse switchText).root.any isSwitchDoc) = true := by decide +kernel
  obtain ⟨doc, hdoc, h⟩ := Yaml.Document.exists_root hwritten
  unfold isSwitchDoc at h
  split at h
  · exact hdoc
  · cases h

theorem parse_reorderedText : Yaml.Document.parse reorderedText = ⟨some reorderedDoc, true⟩ := by
  have hwritten : ((Yaml.Document.parse reorderedText).alone &&
      (Yaml.Document.parse reorderedText).root.any isReorderedDoc) = true := by decide +kernel
  obtain ⟨doc, hdoc, h⟩ := Yaml.Document.exists_root hwritten
  unfold isReorderedDoc at h
  split at h
  · exact hdoc
  · cases h

theorem reordered_switchDoc : Reordered switchDoc reorderedDoc where
  record := by
    refine iff_of_true ⟨_, rfl, by decide, ?_⟩ ⟨_, rfl, by decide, ?_⟩
    · simp [Tree.pairs, written, Tree.scalarText?]
    · simp [Tree.pairs, written, Tree.scalarText?]
  name := .inr ⟨by decide, by decide⟩
  entries := by
    refine .some ⟨_, _, rfl, rfl, by decide, _, ?_, .swap _ _ _⟩
    exact .cons ⟨rfl, .inl rfl⟩ (.cons ⟨rfl, .inr ⟨_, _, rfl, rfl, .swap _ _ _⟩⟩ .nil)

theorem parse_reordered_switch :
    Yaml.Document.parse switchText = ⟨some switchDoc, true⟩ ∧
      Yaml.Document.parse reorderedText = ⟨some reorderedDoc, true⟩ ∧
      Reordered switchDoc reorderedDoc ∧
      ∃ table table', parse switchText = .ok table ∧ parse reorderedText = .ok table' ∧
        table.ids = table'.ids ∧ table.validate = table'.validate := by
  refine ⟨parse_switchText, parse_reorderedText, reordered_switchDoc, ?_⟩
  rcases (parse_reordered parse_switchText parse_reorderedText reordered_switchDoc).1 with
    ⟨_, _, hrefused, -⟩ | ⟨table, table', htable, htable', hids, -, -, hvalidate, -⟩
  · have hread : (ofTree switchDoc).toOption.isSome = true := by decide +kernel
    obtain ⟨table, htable⟩ := Option.isSome_iff_exists.mp hread
    rw [(parse_eq_ok_iff parse_switchText).mpr (eq_ok_of_toOption htable)] at hrefused
    cases hrefused
  · exact ⟨table, table', htable, htable', hids, hvalidate⟩

end Table

end Stimulus
