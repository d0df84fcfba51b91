import Stimulus.Proofs.Table.Payload
import Stimulus.Proofs.Yaml.Place

/-! Records as a whole.  Though a record is read field by field, what is read does not depend on the
order of the fields: the keys have to be known names, none of them written twice, and each field is
what stands under its name. -/

namespace Stimulus

/-! ### Fields -/

namespace Decode

variable {κ σ δ : Type} {keys : Keys κ} {place : Place} {known : List String}
  {has : δ → String → Bool} {add : δ → String → Place → σ → Except Error δ}
  {fields : List (κ × σ)} {draft result : δ}

/-- A field that is added is there afterwards, and no other one is new. -/
def Marks (known : List String) (has : δ → String → Bool)
    (add : δ → String → Place → σ → Except Error δ) : Prop :=
  ∀ draft name place value next, name ∈ known → add draft name place value = .ok next →
    ∀ other, has next other = (other == name || has draft other)

/-- The names of the fields of a record are known, and none comes twice. -/
theorem exists_names_of_readFields (hmarks : Marks known has add)
    (h : readFields keys place known has add draft fields = .ok result) :
    ∃ names, List.Forall₂ (fun field name => keys.name field.1 = .ok name) fields names ∧
      names.Nodup ∧ ∀ name ∈ names, name ∈ known ∧ has draft name = false := by
  induction fields generalizing draft with
  | nil => exact ⟨[], .nil, .nil, by simp⟩
  | cons field fields ih =>
    obtain ⟨name, next, hname, hknown, hhas, hnext, h⟩ := readFields_cons_eq_ok_iff.mp h
    obtain ⟨names, hnames, hnodup, hunread⟩ := ih h
    have hmarked := hmarks draft name _ _ next hknown hnext
    have hfresh : ∀ other ∈ names, other ≠ name ∧ has draft other = false := by
      intro other hother
      have := (hunread other hother).2
      rw [hmarked] at this
      simpa using this
    refine ⟨name :: names, .cons hname hnames, ?_, ?_⟩
    · exact List.nodup_cons.mpr ⟨fun hmem => (hfresh name hmem).1 rfl, hnodup⟩
    · intro other hother
      rcases List.mem_cons.mp hother with rfl | hother
      · exact ⟨hknown, hhas⟩
      · exact ⟨(hunread other hother).1, (hfresh other hother).2⟩

/-- A record is read if its names are known, none comes twice, and each field can be added. -/
theorem exists_readFields (hmarks : Marks known has add) {names : List String}
    (hnames : List.Forall₂ (fun field name => keys.name field.1 = .ok name ∧
      ∀ draft, ∃ next, add draft name (keys.member field.1) field.2 = .ok next) fields names)
    (hnodup : names.Nodup) (hunread : ∀ name ∈ names, name ∈ known ∧ has draft name = false) :
    ∃ result, readFields keys place known has add draft fields = .ok result := by
  induction hnames generalizing draft with
  | nil => exact ⟨draft, rfl⟩
  | @cons field name fields names hfirst _ ih =>
    obtain ⟨hfresh, hnodup⟩ := List.nodup_cons.mp hnodup
    obtain ⟨hknown, hhas⟩ := hunread name (.head _)
    obtain ⟨next, hnext⟩ := hfirst.2 draft
    obtain ⟨result, hresult⟩ :
        ∃ result, readFields keys place known has add next fields = .ok result := by
      refine ih hnodup fun other hother => ?_
      obtain ⟨hother', hread⟩ := hunread other (.tail _ hother)
      refine ⟨hother', ?_⟩
      rw [hmarks draft name _ _ next hknown hnext, hread, Bool.or_false, beq_eq_false_iff_ne]
      rintro rfl
      exact hfresh hother
    exact ⟨result,
      readFields_cons_eq_ok_iff.mpr ⟨name, next, hfirst.1, hknown, hhas, hnext, hresult⟩⟩

end Decode

/-! ### Trees -/

namespace Yaml.Tree

variable {α : Type} {tree tree' : Tree} {known : List String} {name : String}

/-- The entries of a mapping: the text of each key, if it is a scalar, and the value. -/
def pairs (entries : List (Tree × Option String × Tree)) : List (Option String × Tree) :=
  entries.map fun entry => (entry.1.scalarText?, entry.2.2)

/-- A mapping whose keys are known names, none of them written twice. -/
def IsRecord (known : List String) (tree : Tree) : Prop :=
  ∃ entries, tree.entries? = some entries ∧ ((pairs entries).map (·.1)).Nodup ∧
    ∀ pair ∈ pairs entries, ∃ name ∈ known, pair.1 = some name

/-- What stands under a name is related to what was found there, if anything stands there. -/
def Field (holds : Tree → α → Prop) (tree : Tree) (name : String) (found : Option α) : Prop :=
  Option.Rel holds (tree.under? name) found

theorem Field.unique {holds : Tree → α → Prop}
    (hholds : ∀ value a b, holds value a → holds value b → a = b) {found found' : Option α}
    (h : tree.Field holds name found) (h' : tree.Field holds name found') : found = found' := by
  unfold Field at h h'
  generalize tree.under? name = under at h h'
  cases h with
  | none =>
    cases h' with
    | none => rfl
  | some h =>
    cases h' with
    | some h' => rw [hholds _ _ _ h h']

theorem Field.exists_holds {holds : Tree → α → Prop} {found : Option α} {value : Tree}
    (h : tree.Field holds name found) (hvalue : tree.under? name = some value) :
    ∃ found, holds value found := by
  rw [Field, hvalue] at h
  cases h with
  | some h => exact ⟨_, h⟩

/-- The same entries in any order. -/
def Shuffled (tree tree' : Tree) : Prop :=
  ∃ entries entries', tree.entries? = some entries ∧ tree'.entries? = some entries' ∧
    (pairs entries).Perm (pairs entries')

theorem Shuffled.symm (h : tree.Shuffled tree') : tree'.Shuffled tree := by
  obtain ⟨entries, entries', hentries, hentries', hperm⟩ := h
  exact ⟨entries', entries, hentries', hentries, hperm.symm⟩

theorem exists_names {keys : List (Option String)}
    (h : ∀ key ∈ keys, ∃ name ∈ known, key = some name) :
    ∃ names : List String, keys = names.map some ∧ ∀ name ∈ names, name ∈ known := by
  induction keys with
  | nil => exact ⟨[], rfl, by simp⟩
  | cons key keys ih =>
    obtain ⟨name, hname, rfl⟩ := h key (.head _)
    obtain ⟨names, rfl, hnames⟩ := ih fun key hkey => h key (.tail _ hkey)
    exact ⟨name :: names, rfl, by simpa using ⟨hname, hnames⟩⟩

theorem under?_eq {entries : List (Tree × Option String × Tree)} (h : tree.entries? = some entries)
    (name : String) :
    tree.under? name =
      (pairs entries).reverse.findSome? fun pair =>
        if pair.1 = some name then some pair.2 else none := by
  cases tree with
  | mapping tag entries' =>
    obtain rfl := Option.some.inj h
    rw [under?, List.findSomeRev?_eq_findSome?_reverse, pairs, ← List.map_reverse,
      List.findSome?_map]
    rfl
  | scalar tag text style =>
    unfold entries? at h
    dsimp only at h
    split at h
    · obtain rfl := Option.some.inj h
      rfl
    · cases h
  | sequence _ _ | broken => cases h

/-- Where no key is written twice, a value stands under the name of its key. -/
theorem under?_eq_some_iff {entries : List (Tree × Option String × Tree)} {value : Tree}
    (h : tree.entries? = some entries) (hnodup : ((pairs entries).map (·.1)).Nodup) :
    tree.under? name = some value ↔ (some name, value) ∈ pairs entries := by
  rw [under?_eq h]
  constructor
  · intro hfound
    obtain ⟨⟨key, other⟩, hmem, hpair⟩ := List.exists_of_findSome?_eq_some hfound
    split at hpair
    · rename_i hkey
      obtain rfl : key = some name := hkey
      obtain rfl : other = value := Option.some.inj hpair
      exact List.mem_reverse.mp hmem
    · cases hpair
  · intro hmem
    obtain ⟨found, hfound⟩ : ∃ found, (pairs entries).reverse.findSome? (fun pair =>
        if pair.1 = some name then some pair.2 else none) = some found := by
      rw [← Option.isSome_iff_exists, List.findSome?_isSome_iff]
      exact ⟨_, List.mem_reverse.mpr hmem, by simp⟩
    obtain ⟨⟨key, other⟩, hother, hpair⟩ := List.exists_of_findSome?_eq_some hfound
    split at hpair
    · rename_i hkey
      have hsame : (key, other) = (some name, value) :=
        List.inj_on_of_nodup_map hnodup (List.mem_reverse.mp hother) hmem hkey
      rw [hfound, ← hpair, congrArg Prod.snd hsame]
    · cases hpair

theorem IsRecord.shuffled (h : tree.IsRecord known) (hshuffled : tree.Shuffled tree') :
    tree'.IsRecord known := by
  obtain ⟨entries, entries', hentries, hentries', hperm⟩ := hshuffled
  obtain ⟨_, heq, hnodup, hknown⟩ := h
  obtain rfl := Option.some.inj (hentries.symm.trans heq)
  refine ⟨entries', hentries', ((hperm.map (·.1)).nodup_iff).mp hnodup, fun pair hpair => ?_⟩
  exact hknown pair (hperm.mem_iff.mpr hpair)

/-- In whatever order the fields of a record stand, the same values stand under their names. -/
theorem IsRecord.under?_eq (h : tree.IsRecord known) (hshuffled : tree.Shuffled tree')
    (name : String) : tree.under? name = tree'.under? name := by
  obtain ⟨entries, entries', hentries, hentries', hperm⟩ := hshuffled
  obtain ⟨_, heq, hnodup, -⟩ := h
  obtain rfl := Option.some.inj (hentries.symm.trans heq)
  have hnodup' := ((hperm.map (·.1)).nodup_iff).mp hnodup
  refine Option.ext fun value => ?_
  rw [under?_eq_some_iff hentries hnodup, under?_eq_some_iff hentries' hnodup', hperm.mem_iff]

theorem Field.shuffled {holds : Tree → α → Prop} {found : Option α}
    (h : tree.Field holds name found) (hrecord : tree.IsRecord known)
    (hshuffled : tree.Shuffled tree') : tree'.Field holds name found := by
  rw [Field, ← hrecord.under?_eq hshuffled]
  exact h

/-! ### Reading records -/

section

variable {δ : Type} {place : Decode.Place} {expected : String} {has : δ → String → Bool}
  {add : δ → String → Decode.Place → Tree → Except Decode.Error δ} {draft result : δ}
  {fields : List ((Tree × Option String) × Tree)}

/-- The texts of the keys of a mapping are names. -/
theorem forall₂_keys_iff {entries : List (Tree × Option String × Tree)} {names : List String} :
    List.Forall₂ (fun entry name => entry.1.scalarText? = some name) entries names ↔
      (pairs entries).map (·.1) = names.map some := by
  rw [pairs, List.map_map, ← List.forall₂_eq_eq_eq, List.forall₂_map_left_iff,
    List.forall₂_map_right_iff]
  rfl

theorem exists_entries_of_fields (h : tree.readEntries expected place = .ok fields) :
    ∃ entries, tree.entries? = some entries ∧
      fields = entries.map fun entry => ((entry.1, entry.2.1), entry.2.2) := by
  rw [readEntries] at h
  split at h
  · rename_i entries hentries
    exact ⟨entries, hentries, (Except.ok.inj h).symm⟩
  · cases h

/-- A tree that is read as a record is one. -/
theorem isRecord_of_readFields (hmarks : Decode.Marks known has add)
    (hfields : tree.readEntries expected place = .ok fields)
    (h : Decode.readFields (keys place) place known has add draft fields = .ok result) :
    tree.IsRecord known := by
  obtain ⟨entries, hentries, rfl⟩ := exists_entries_of_fields hfields
  obtain ⟨names, hnames, hnodup, hknown⟩ := Decode.exists_names_of_readFields hmarks h
  have hkeys : (pairs entries).map (·.1) = names.map some := by
    rw [List.forall₂_map_left_iff] at hnames
    exact forall₂_keys_iff.mp (hnames.imp fun _ _ h => readText_eq_ok_iff.mp h)
  refine ⟨entries, hentries, ?_, fun pair hpair => ?_⟩
  · rw [hkeys]
    exact hnodup.map fun _ _ h => Option.some.inj h
  · have hmem : pair.1 ∈ names.map some := hkeys ▸ List.mem_map_of_mem hpair
    obtain ⟨name, hname, heq⟩ := List.mem_map.mp hmem
    exact ⟨name, (hknown name hname).1, heq.symm⟩

/-- A record is read if each of its fields can be added. -/
theorem exists_readFields_of_isRecord (hmarks : Decode.Marks known has add)
    (hrecord : tree.IsRecord known) (hunread : ∀ name, has draft name = false)
    (hadd : ∀ name ∈ known, ∀ value, tree.under? name = some value → ∀ place draft,
      ∃ next, add draft name place value = .ok next) (place : Decode.Place) (expected : String) :
    ∃ fields result, tree.readEntries expected place = .ok fields ∧
      Decode.readFields (keys place) place known has add draft fields = .ok result := by
  obtain ⟨entries, hentries, hnodup, hknown⟩ := hrecord
  have hfields : tree.readEntries expected place =
      .ok (entries.map fun entry => ((entry.1, entry.2.1), entry.2.2)) := by
    rw [readEntries, hentries]
  obtain ⟨names, hnames, hsubset⟩ : ∃ names : List String,
      (pairs entries).map (·.1) = names.map some ∧ ∀ name ∈ names, name ∈ known := by
    refine exists_names fun key hkey => ?_
    obtain ⟨pair, hpair, rfl⟩ := List.mem_map.mp hkey
    exact hknown pair hpair
  have hdistinct : names.Nodup := by
    rw [hnames] at hnodup
    exact hnodup.of_map some
  obtain ⟨result, hresult⟩ : ∃ result, Decode.readFields (keys place) place known has add draft
      (entries.map fun entry => ((entry.1, entry.2.1), entry.2.2)) = .ok result := by
    refine Decode.exists_readFields hmarks ?_ hdistinct fun name hname =>
      ⟨hsubset name hname, hunread name⟩
    have hvalues : ∀ entry ∈ entries, ∀ name, entry.1.scalarText? = some name →
        name ∈ known ∧ tree.under? name = some entry.2.2 := by
      intro entry hentry name hname
      have hpair : (some name, entry.2.2) ∈ pairs entries :=
        List.mem_map.mpr ⟨entry, hentry, by rw [hname]⟩
      obtain ⟨other, hother, heq⟩ := hknown _ hpair
      obtain rfl : name = other := Option.some.inj heq
      exact ⟨hother, (under?_eq_some_iff hentries hnodup).mpr hpair⟩
    have hread := (List.forall₂_and_left _ _).mpr ⟨hvalues, forall₂_keys_iff.mpr hnames⟩
    rw [List.forall₂_map_left_iff]
    refine hread.imp fun entry name h => ?_
    obtain ⟨hvalue, hname⟩ := h
    obtain ⟨hmem, hunder⟩ := hvalue name hname
    exact ⟨readText_eq_ok_iff.mpr hname, hadd name hmem _ hunder _⟩
  exact ⟨_, result, hfields, hresult⟩

/-- A field is what stands under its name, or nothing. -/
theorem field_of_readFields {holds : Tree → α → Prop} {field : δ → Option α}
    (hhas : ∀ draft, (field draft).isSome → has draft name = true)
    (hkeep : ∀ draft other place value next, other ≠ name →
      add draft other place value = .ok next → field next = field draft)
    (hadd : ∀ draft place value next, add draft name place value = .ok next →
      ∃ found, holds value found ∧ field next = some found)
    (hfields : tree.readEntries expected place = .ok fields)
    (h : Decode.readFields (keys place) place known has add draft fields = .ok result)
    (hdraft : field draft = none) : tree.Field holds name (field result) := by
  rw [Field]
  cases hunder : tree.under? name with
  | none =>
    have hnone : field result = none := by
      refine Decode.readFields_induct (P := fun draft => field draft = none) ?_ h hdraft
      intro draft key value other next hmem hname _ hnext hdraft
      have hother : other ≠ name := by
        rintro rfl
        obtain ⟨found, hfound⟩ := exists_under?_of_field hfields hmem hname
        rw [hunder] at hfound
        cases hfound
      exact (hkeep draft other _ value next hother hnext).trans hdraft
    rw [hnone]
    exact .none
  | some value =>
    obtain ⟨key, hmem, hname⟩ := exists_field_of_under? hunder hfields
    obtain ⟨found, hholds, hfound⟩ : ∃ found, holds value found ∧ field result = some found := by
      refine Decode.readFields_of_mem
        (P := fun draft => ∃ found, holds value found ∧ field draft = some found)
        ?_ ?_ h hmem hname fun draft next hnext => hadd draft _ value next hnext
      · rintro draft ⟨found, -, hfound⟩
        exact hhas draft (by simp [hfound])
      · rintro draft other _ _ next hother ⟨found, hholds, hfound⟩ hnext
        exact ⟨found, hholds, (hkeep draft other _ _ next hother hnext).trans hfound⟩
    rw [hfound]
    exact .some hholds

end

end Yaml.Tree

end Stimulus
