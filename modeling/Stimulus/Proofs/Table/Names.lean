import Stimulus.Proofs.Result
import Stimulus.Proofs.Table.Problems
import Stimulus.Table.Reader

/-! Whether the problems of a check say which entries they are about.  All of them do but one kind:
an unknown identifier that the links reach behind another entry is told as the chain tells it, with
the name that is missing and not that of the entry whose chain fails. -/

namespace Stimulus.Table

open Relation (ReflTransGen TransGen)

variable {table : Table} {step : Step} {e : Error} {x : String}

/-- What is wrong with an entry: its path is empty or has white space in it, its method cannot carry
the payload that it has, or its links lead out of the table or into a cycle. -/
inductive Faulty (table : Table) (step : Step) : Prop
  | emptyPath (empty : Text.trim step.2.path = "" ∨ Text.trim step.2.path = "/")
  | blankInPath {c : Char} (inside : c ∈ step.2.path.toList) (blank : Text.isBlank c = true)
  | payload (given : step.2.payload.isSome) (bare : step.2.method.carriesBody = false)
  | unknown {x : String} (reach : ReflTransGen table.Links step.1 x)
      (absent : table.get? x = none)
  | cycle {x : String} (reach : ReflTransGen table.Links step.1 x)
      (cycle : TransGen table.Links x x)

/-- The error names an entry of the table. -/
def NamesEntry (table : Table) (e : Error) : Prop :=
  ∃ id ∈ table.ids, ∃ reason, e = .invalidDescriptor id reason

/-- A check reports a problem under this identifier. -/
def Reports (table : Table) (id : String) : Prop :=
  ∃ reason, .invalidDescriptor id reason ∈ table.validate

/-! ### Faults -/

theorem problems_ne_nil_iff {descriptor : Descriptor} : descriptor.problems ≠ [] ↔
    (Text.trim descriptor.path = "" ∨ Text.trim descriptor.path = "/") ∨
      (∃ c ∈ descriptor.path.toList, Text.isBlank c = true) ∨
      (descriptor.payload.isSome ∧ descriptor.method.carriesBody = false) := by
  simp only [Descriptor.problems, ne_eq, List.append_eq_nil_iff, ite_eq_right_iff, List.cons_ne_nil,
    imp_false, List.any_eq_true, Bool.not_eq_true', not_and_or, not_or, not_not, or_assoc]

theorem faulty_iff :
    table.Faulty step ↔ step.2.problems ≠ [] ∨ ∃ e, table.chain step.1 = .error e := by
  rw [problems_ne_nil_iff]
  constructor
  · intro faulty
    cases faulty with
    | emptyPath empty => exact .inl (.inl empty)
    | blankInPath inside blank => exact .inl (.inr (.inl ⟨_, inside, blank⟩))
    | payload given bare => exact .inl (.inr (.inr ⟨given, bare⟩))
    | unknown reach absent => exact .inr ⟨_, chain_eq_unknown_iff.mpr ⟨reach, absent⟩⟩
    | cycle reach cycle =>
      obtain ⟨_, _, hchain⟩ := exists_chain_eq_invalid_iff.mpr ⟨_, reach, cycle⟩
      exact .inr ⟨_, hchain⟩
  · rintro ((empty | ⟨c, inside, blank⟩ | ⟨given, bare⟩) | ⟨e, hchain⟩)
    · exact .emptyPath empty
    · exact .blankInPath inside blank
    · exact .payload given bare
    · rcases eq_of_chain_eq_error hchain with ⟨x, rfl⟩ | ⟨x, rfl⟩
      · obtain ⟨reach, absent⟩ := chain_eq_unknown_iff.mp hchain
        exact .unknown reach absent
      · obtain ⟨y, reach, cycle⟩ := exists_chain_eq_invalid_iff.mp ⟨_, _, hchain⟩
        exact .cycle reach cycle

/-! ### What a problem names -/

theorem mem_validate_iff : e ∈ table.validate ↔ ∃ step ∈ table.entries,
    e ∈ identifierReport step ∨ e ∈ ownReport step ∨
      e ∈ linkReport step (table.chain step.1) := by
  simp [validate_eq_flatMap, List.mem_flatMap]

/-- A failure of a link names its entry, unless it is an unknown identifier that comes later. -/
theorem LinkFailure.cases_name (failure : LinkFailure table step e) :
    (∃ reason, e = .invalidDescriptor step.1 reason) ∨ ∃ x, e = .unknownTestCase x := by
  cases failure with
  | unknownNext _ _ | cycle _ _ => exact .inl ⟨_, rfl⟩
  | unknownLater _ _ _ => exact .inr ⟨_, rfl⟩

theorem linkFailure_of_mem (h : e ∈ linkReport step (table.chain step.1)) :
    LinkFailure table step e := by
  rcases linkReport_cases table step with ⟨-, hreport⟩ | ⟨-, problem, hreport, failure⟩
  · simp [hreport] at h
  · rw [hreport, List.mem_singleton] at h
    rwa [h]

/-- A problem names the entry that it is about, or it is the unknown identifier that the links of an
entry reach behind another one. -/
theorem exists_of_mem_validate (h : e ∈ table.validate) : ∃ step ∈ table.entries,
    (∃ reason, e = .invalidDescriptor step.1 reason) ∨
      ∃ x, e = .unknownTestCase x ∧ LinkFailure table step e := by
  obtain ⟨step, hstep, hparts⟩ := mem_validate_iff.mp h
  refine ⟨step, hstep, ?_⟩
  rcases hparts with hidentifier | hown | hlink
  · rw [identifierReport] at hidentifier
    split at hidentifier
    · exact .inl ⟨_, List.mem_singleton.mp hidentifier⟩
    · cases hidentifier
  · obtain ⟨problem, -, rfl⟩ := List.mem_map.mp hown
    exact .inl ⟨_, rfl⟩
  · have failure := linkFailure_of_mem hlink
    rcases failure.cases_name with hname | ⟨x, rfl⟩
    · exact .inl hname
    · exact .inr ⟨x, rfl, failure⟩

theorem linkReport_of_later (later : LinkFailure table step (.unknownTestCase x)) :
    linkReport step (table.chain step.1) = [.unknownTestCase x] := by
  obtain ⟨reach, hnext, absent⟩ : ReflTransGen table.Links step.1 x ∧ step.2.next ≠ some x ∧
      table.get? x = none := by
    cases later with
    | unknownLater reach hnext absent => exact ⟨reach, hnext, absent⟩
  rw [chain_eq_unknown_iff.mpr ⟨reach, absent⟩, linkReport]
  cases link : step.2.next with
  | none => rfl
  | some next =>
    have hne : x ≠ next := fun heq => hnext (by rw [link, heq])
    simp [hne]

/-- No two entries have the same identifier. -/
theorem eq_of_fst_eq {step' : Step} (hstep : step ∈ table.entries) (hstep' : step' ∈ table.entries)
    (hid : step'.1 = step.1) : step' = step := by
  have hentry := get?_of_mem_entries hstep'
  rw [hid, get?_of_mem_entries hstep] at hentry
  exact Prod.ext hid (Option.some.inj hentry.symm)

/-- Whatever names an entry is wrong with the entry itself. -/
theorem faults_of_reports (hstep : step ∈ table.entries) (reports : table.Reports step.1) :
    Text.isBlankText step.1 = true ∨ step.2.problems ≠ [] ∨
      (∃ e, table.chain step.1 = .error e) ∧
        ∀ x, ¬LinkFailure table step (.unknownTestCase x) := by
  obtain ⟨reason, hreason⟩ := reports
  obtain ⟨step', hstep', hidentifier | hown | hlink⟩ := mem_validate_iff.mp hreason
  · rw [identifierReport] at hidentifier
    split at hidentifier
    · rename_i hblank
      obtain ⟨hid, -⟩ := Error.invalidDescriptor.inj (List.mem_singleton.mp hidentifier)
      rw [hid]
      exact .inl hblank
    · cases hidentifier
  · obtain ⟨problem, hproblem, heq⟩ := List.mem_map.mp hown
    obtain rfl := eq_of_fst_eq hstep hstep' (Error.invalidDescriptor.inj heq).1
    exact .inr (.inl (List.ne_nil_of_mem hproblem))
  · rcases (linkFailure_of_mem hlink).cases_name with ⟨_, heq⟩ | ⟨x, heq⟩
    · obtain rfl := eq_of_fst_eq hstep hstep' (Error.invalidDescriptor.inj heq).1.symm
      refine .inr (.inr ⟨?_, fun x later => ?_⟩)
      · rcases linkReport_cases table step' with ⟨-, hreport⟩ | ⟨hchain, -⟩
        · simp [hreport] at hlink
        · exact hchain
      · rw [linkReport_of_later later, List.mem_singleton] at hlink
        cases hlink
    · cases heq

/-- An entry is named exactly if its identifier is blank, if something is wrong with it on its own,
or if its chain fails for a reason other than an unknown identifier that comes later. -/
theorem reports_iff (hstep : step ∈ table.entries) : table.Reports step.1 ↔
    Text.isBlankText step.1 = true ∨ step.2.problems ≠ [] ∨
      (∃ e, table.chain step.1 = .error e) ∧
        ∀ x, ¬LinkFailure table step (.unknownTestCase x) := by
  refine ⟨faults_of_reports hstep, ?_⟩
  have hreported (problem : Error) (hname : ∃ reason, problem = .invalidDescriptor step.1 reason)
      (hpart : problem ∈ identifierReport step ∨ problem ∈ ownReport step ∨
        problem ∈ linkReport step (table.chain step.1)) : table.Reports step.1 := by
    obtain ⟨reason, rfl⟩ := hname
    exact ⟨reason, mem_validate_iff.mpr ⟨step, hstep, hpart⟩⟩
  rintro (hblank | hown | ⟨⟨e, hchain⟩, hlater⟩)
  · exact hreported _ ⟨"identifier is empty", rfl⟩ (.inl (by simp [identifierReport, hblank]))
  · obtain ⟨problem, hproblem⟩ := List.exists_mem_of_ne_nil _ hown
    exact hreported _ ⟨_, rfl⟩ (.inr (.inl (List.mem_map_of_mem hproblem)))
  · rcases linkReport_cases table step with ⟨⟨_, hok⟩, -⟩ | ⟨-, problem, hreport, failure⟩
    · cases hok.symm.trans hchain
    · rcases failure.cases_name with hname | ⟨x, rfl⟩
      · exact hreported problem hname (.inr (.inr (by simp [hreport])))
      · exact absurd failure (hlater x)

/-! ### Links behind links -/

/-- An unknown identifier comes later for some entry exactly if an entry whose link is unknown is
itself linked to. -/
theorem exists_later_iff :
    (∃ step ∈ table.entries, ∃ x, LinkFailure table step (.unknownTestCase x)) ↔
      ∃ id next x, table.Links id next ∧ table.Links next x ∧ x ∉ table.ids := by
  have habsent_iff (x : String) : table.get? x = none ↔ x ∉ table.ids := by
    refine ⟨fun habsent hx => ?_, Keyed.get?_eq_none⟩
    obtain ⟨descriptor, hentry⟩ := Keyed.exists_get?_of_mem hx
    rw [show table.get? x = some descriptor from hentry] at habsent
    cases habsent
  constructor
  · rintro ⟨step, hstep, x, later⟩
    cases later with
    | unknownLater reach hnext absent =>
      have hentry := get?_of_mem_entries hstep
      -- The last link that is followed is not the first one.
      rcases reach.cases_tail with rfl | ⟨last, hreach, hlast⟩
      · rw [hentry] at absent
        cases absent
      · rcases hreach.cases_tail with rfl | ⟨id, -, hid⟩
        · obtain ⟨descriptor, hdescriptor, hlink⟩ := hlast
          rw [hentry] at hdescriptor
          exact absurd (by rw [Option.some.inj hdescriptor, hlink]) hnext
        · exact ⟨id, last, x, hid, hlast, (habsent_iff x).mp absent⟩
  · rintro ⟨id, next, x, ⟨descriptor, hentry, hlink⟩, hlast, hx⟩
    have absent := (habsent_iff x).mpr hx
    refine ⟨(id, descriptor), Keyed.mem_of_get? hentry, x, .unknownLater ?_ ?_ absent⟩
    · exact .head ⟨descriptor, hentry, hlink⟩ (.single hlast)
    · intro hnext
      obtain rfl := Option.some.inj (hlink.symm.trans hnext)
      obtain ⟨_, hpresent, -⟩ := hlast
      rw [absent] at hpresent
      cases hpresent

/-- The problems of a check name entries of the table, and every faulty entry is named, exactly if no
link leads to an entry whose own link leads out of the table.  In any table a problem that names no
entry is the unknown identifier that some entry's links reach behind another one, and an entry
whose only fault that is stays unnamed. -/
theorem validate_names_iff (table : Table) :
    (((∀ e ∈ table.validate, table.NamesEntry e) ∧
        ∀ step ∈ table.entries, table.Faulty step → table.Reports step.1) ↔
      ∀ id next x, table.Links id next → table.Links next x → x ∈ table.ids) ∧
    (∀ e ∈ table.validate, table.NamesEntry e ∨
      ∃ step ∈ table.entries, ∃ x, e = .unknownTestCase x ∧ LinkFailure table step e) ∧
    ∀ step ∈ table.entries, table.Faulty step → (table.Reports step.1 ↔
      Text.isBlankText step.1 = true ∨ step.2.problems ≠ [] ∨
        ∀ x, ¬LinkFailure table step (.unknownTestCase x)) := by
  have hnames : ∀ e ∈ table.validate, table.NamesEntry e ∨
      ∃ step ∈ table.entries, ∃ x, e = .unknownTestCase x ∧ LinkFailure table step e := by
    intro e he
    obtain ⟨step, hstep, ⟨reason, hreason⟩ | hlater⟩ := exists_of_mem_validate he
    · exact .inl ⟨step.1, List.mem_map_of_mem hstep, reason, hreason⟩
    · exact .inr ⟨step, hstep, hlater⟩
  have hreports : ∀ step ∈ table.entries, table.Faulty step → (table.Reports step.1 ↔
      Text.isBlankText step.1 = true ∨ step.2.problems ≠ [] ∨
        ∀ x, ¬LinkFailure table step (.unknownTestCase x)) := by
    intro step hstep faulty
    rw [reports_iff hstep]
    rcases faulty_iff.mp faulty with hown | hchain
    · simp [hown]
    · simp [hchain]
  refine ⟨⟨fun ⟨hall, _⟩ => ?_, fun hlinks => ?_⟩, hnames, hreports⟩
  · intro id next x hid hnext
    by_contra hx
    obtain ⟨step, hstep, y, later⟩ := exists_later_iff.mpr ⟨id, next, x, hid, hnext, hx⟩
    have hmem : .unknownTestCase y ∈ table.validate :=
      mem_validate_iff.mpr ⟨step, hstep, .inr (.inr (by simp [linkReport_of_later later]))⟩
    obtain ⟨_, -, _, heq⟩ := hall _ hmem
    cases heq
  · have hlater : ∀ step ∈ table.entries, ∀ x, ¬LinkFailure table step (.unknownTestCase x) := by
      intro step hstep x later
      obtain ⟨id, next, y, hid, hnext, hy⟩ := exists_later_iff.mp ⟨step, hstep, x, later⟩
      exact hy (hlinks id next y hid hnext)
    refine ⟨fun e he => ?_, fun step hstep faulty => ?_⟩
    · rcases hnames e he with hname | ⟨step, hstep, x, rfl, later⟩
      · exact hname
      · exact absurd later (hlater step hstep x)
    · exact (hreports step hstep faulty).mpr (.inr (.inr (hlater step hstep)))

/-- The text of a table with two entries: the first one links to the second, and the second one to
nothing that is there. -/
def strayTable : String :=
  "test_cases:\n  on: \x7bmethod: GET, path: /3/0, then: dim\x7d\n" ++
    "  dim: \x7bmethod: GET, path: /3/0, then: off\x7d\n"

/-- The chain of the first entry fails, and no problem names it: one names the second entry, and the
other one the identifier that is missing. -/
theorem not_validate_names :
    ∃ table descriptor, parse strayTable = .ok table ∧ table.get? "on" = some descriptor ∧
      table.validate = [.invalidDescriptor "dim" "'then' refers to unknown test case off",
        .unknownTestCase "off"] ∧
      table.Faulty ("on", descriptor) ∧ ¬table.Reports "on" ∧
      ¬∀ e ∈ table.validate, table.NamesEntry e := by
  have hparsed : (parse strayTable).toOption.any (fun table =>
      (table.get? "on").isSome ∧
      (table.chain "on").toOption.isNone ∧
      table.validate = [.invalidDescriptor "dim" "'then' refers to unknown test case off",
        .unknownTestCase "off"]) = true := by decide +kernel
  obtain ⟨table, htable, hfacts⟩ := (Option.any_eq_true _ _).mp hparsed
  obtain ⟨hentry, hchain, hproblems⟩ := of_decide_eq_true hfacts
  obtain ⟨descriptor, hdescriptor⟩ := Option.isSome_iff_exists.mp hentry
  refine ⟨table, descriptor, eq_ok_of_toOption htable, hdescriptor, hproblems, ?_, ?_, ?_⟩
  · apply faulty_iff.mpr
    cases hresult : table.chain "on" with
    | ok steps => simp [hresult, Except.toOption] at hchain
    | error e => exact .inr ⟨e, rfl⟩
  · rintro ⟨reason, hreason⟩
    simp [hproblems] at hreason
  · intro hall
    obtain ⟨_, -, _, heq⟩ := hall (.unknownTestCase "off") (by simp [hproblems])
    cases heq

end Stimulus.Table
