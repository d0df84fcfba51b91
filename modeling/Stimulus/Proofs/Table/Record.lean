import Stimulus.Proofs.Yaml.Record

/-! Entries and tables as records.  An entry is read exactly if its tree is a record of the fields
of an entry and each of them holds a value of its kind; what is read are these values.  The same
holds of a table, so both are read alike in whatever order their fields are written. -/

namespace Stimulus

open Yaml (Tree)

namespace Yaml.Tree

variable {known : List String} {name : String} {tree : Tree}

theorem mem_of_readVariant {place : Decode.Place} (h : readVariant place known tree = .ok name) :
    name ∈ known := by
  unfold readVariant at h
  split at h
  · dsimp only at h
    split at h
    · rename_i hknown
      obtain ⟨-, -, h⟩ := bind_eq_ok_iff.mp h
      cases h
      exact List.contains_iff_mem.mp hknown
    · cases h
  · split at h
    · rename_i hknown
      cases h
      exact List.contains_iff_mem.mp hknown
    · cases h
  · cases h

end Yaml.Tree

/-! ### Entries -/

namespace Descriptor

/-- The value of a field of text. -/
def HoldsText (value : Tree) (found : String) : Prop :=
  Tree.source.string .root value = .ok found

/-- The value of a field of text that may be empty. -/
def HoldsText? (value : Tree) (found : Option String) : Prop :=
  Tree.source.string? .root value = .ok found

def HoldsMethod (value : Tree) (found : Method) : Prop :=
  ∃ name, Tree.source.variant .root (Method.all.map Method.name) value = .ok name ∧
    Method.ofName? name = some found

def HoldsFormat (value : Tree) (found : ContentFormat) : Prop :=
  ∃ name, Tree.source.variant .root ContentFormat.names value = .ok name ∧
    ContentFormat.ofName? name = some found

def HoldsPayload (value : Tree) (found : Option Json) : Prop :=
  Tree.source.value? .root value = .ok found

/-- The fields of an entry are those that a tree holds. -/
structure Draft.ReadFrom (tree : Tree) (draft : Draft) : Prop where
  record : tree.IsRecord fieldNames
  description : tree.Field HoldsText? "description" draft.description
  method : tree.Field HoldsMethod "method" draft.method
  path : tree.Field HoldsText "path" draft.path
  format : tree.Field HoldsFormat "format" draft.format
  payload : tree.Field HoldsPayload "payload" draft.payload
  next : tree.Field HoldsText? "then" draft.next

namespace Draft

variable {draft next : Draft} {name : String} {place : Decode.Place} {value tree : Tree}

/-- Whether a field is among those that are read shows in that field only. -/
theorem has_eq {draft : Draft} {other : String} :
    draft.has other =
      ((other == "description" && draft.description.isSome) ||
        (other == "method" && draft.method.isSome) || (other == "path" && draft.path.isSome) ||
        (other == "format" && draft.format.isSome) ||
        (other == "payload" && draft.payload.isSome) ||
        (other == "then" && draft.next.isSome)) := by
  unfold has
  split <;> simp_all

theorem isSome_method {name : String} (h : name ∈ Method.all.map Method.name) :
    (Method.ofName? name).isSome = true := by
  revert h
  revert name
  decide

theorem isSome_format {name : String} (h : name ∈ ContentFormat.names) :
    (ContentFormat.ofName? name).isSome = true := by
  revert name
  decide

theorem marks_add : Decode.Marks fieldNames has (add Tree.source) := by
  intro draft name place value next hname hnext other
  simp only [fieldNames, List.mem_cons, List.not_mem_nil, or_false] at hname
  rcases hname with rfl | rfl | rfl | rfl | rfl | rfl <;>
    obtain ⟨found, hfound, hnext⟩ := bind_eq_ok_iff.mp hnext <;> cases hnext
  case inr.inl =>
    have hmethod := isSome_method (Tree.mem_of_readVariant hfound)
    simp only [has_eq, hmethod]
    grind
  case inr.inr.inr.inl =>
    have hformat := isSome_format (Tree.mem_of_readVariant hfound)
    simp only [has_eq, hformat]
    grind
  all_goals
    simp only [has_eq, Option.isSome_some]
    grind

/-- A field that is added is what its value holds. -/
theorem holds_of_add (h : draft.add Tree.source name place value = .ok next) :
    (name = "description" → ∃ found, HoldsText? value found ∧ next.description = some found) ∧
    (name = "method" → ∃ found, HoldsMethod value found ∧ next.method = some found) ∧
    (name = "path" → ∃ found, HoldsText value found ∧ next.path = some found) ∧
    (name = "format" → ∃ found, HoldsFormat value found ∧ next.format = some found) ∧
    (name = "payload" → ∃ found, HoldsPayload value found ∧ next.payload = some found) ∧
    (name = "then" → ∃ found, HoldsText? value found ∧ next.next = some found) := by
  have hroot := (draft.add_agree name place .root value).eq_ok h
  unfold add at hroot
  split at hroot
  case h_7 => simp_all
  case h_2 =>
    obtain ⟨found, hfound, hroot⟩ := bind_eq_ok_iff.mp hroot
    cases hroot
    obtain ⟨method, hmethod⟩ :=
      Option.isSome_iff_exists.mp (isSome_method (Tree.mem_of_readVariant hfound))
    simp only [String.reduceEq, false_imp_iff, true_imp_iff, true_and, and_true]
    exact ⟨method, ⟨found, hfound, hmethod⟩, hmethod⟩
  case h_4 =>
    obtain ⟨found, hfound, hroot⟩ := bind_eq_ok_iff.mp hroot
    cases hroot
    obtain ⟨format, hformat⟩ :=
      Option.isSome_iff_exists.mp (isSome_format (Tree.mem_of_readVariant hfound))
    simp only [String.reduceEq, false_imp_iff, true_imp_iff, true_and, and_true]
    exact ⟨format, ⟨found, hfound, hformat⟩, hformat⟩
  all_goals
    obtain ⟨found, hfound, hroot⟩ := bind_eq_ok_iff.mp hroot
    cases hroot
    simp only [String.reduceEq, false_imp_iff, true_imp_iff, true_and, and_true]
    exact ⟨found, hfound, rfl⟩

/-- Every other field is kept. -/
theorem keeps_of_add (h : draft.add Tree.source name place value = .ok next) :
    (name ≠ "description" → next.description = draft.description) ∧
    (name ≠ "method" → next.method = draft.method) ∧
    (name ≠ "path" → next.path = draft.path) ∧
    (name ≠ "format" → next.format = draft.format) ∧
    (name ≠ "payload" → next.payload = draft.payload) ∧
    (name ≠ "then" → next.next = draft.next) := by
  unfold add at h
  split at h
  case h_7 =>
    cases h
    simp
  all_goals
    obtain ⟨_, -, h⟩ := bind_eq_ok_iff.mp h
    cases h
    simp

/-- What is read field by field is what stands under the names of the fields. -/
theorem readFrom_of_readFields {expected : String} {fields : List ((Tree × Option String) × Tree)}
    (hfields : tree.readEntries expected place = .ok fields)
    (h : Decode.readFields (Tree.keys place) place fieldNames has (add Tree.source) .empty fields =
      .ok draft) : draft.ReadFrom tree where
  record := Tree.isRecord_of_readFields marks_add hfields h
  description :=
    Tree.field_of_readFields (fun _ h => h) (fun _ _ _ _ _ hne h => (keeps_of_add h).1 hne)
      (fun _ _ _ _ h => (holds_of_add h).1 rfl) hfields h rfl
  method :=
    Tree.field_of_readFields (fun _ h => h) (fun _ _ _ _ _ hne h => (keeps_of_add h).2.1 hne)
      (fun _ _ _ _ h => (holds_of_add h).2.1 rfl) hfields h rfl
  path :=
    Tree.field_of_readFields (fun _ h => h) (fun _ _ _ _ _ hne h => (keeps_of_add h).2.2.1 hne)
      (fun _ _ _ _ h => (holds_of_add h).2.2.1 rfl) hfields h rfl
  format :=
    Tree.field_of_readFields (fun _ h => h) (fun _ _ _ _ _ hne h => (keeps_of_add h).2.2.2.1 hne)
      (fun _ _ _ _ h => (holds_of_add h).2.2.2.1 rfl) hfields h rfl
  payload :=
    Tree.field_of_readFields (fun _ h => h) (fun _ _ _ _ _ hne h => (keeps_of_add h).2.2.2.2.1 hne)
      (fun _ _ _ _ h => (holds_of_add h).2.2.2.2.1 rfl) hfields h rfl
  next :=
    Tree.field_of_readFields (fun _ h => h) (fun _ _ _ _ _ hne h => (keeps_of_add h).2.2.2.2.2 hne)
      (fun _ _ _ _ h => (holds_of_add h).2.2.2.2.2 rfl) hfields h rfl

/-- A field that a record holds can be added, at any place. -/
theorem ReadFrom.exists_add (h : draft.ReadFrom tree) (hname : name ∈ fieldNames)
    (hvalue : tree.under? name = some value) (start : Draft) (place : Decode.Place) :
    ∃ next, start.add Tree.source name place value = .ok next := by
  suffices hroot : ∃ next, start.add Tree.source name .root value = .ok next by
    obtain ⟨next, hnext⟩ := hroot
    exact ⟨next, (start.add_agree name .root place value).eq_ok hnext⟩
  simp only [fieldNames, List.mem_cons, List.not_mem_nil, or_false] at hname
  rcases hname with rfl | rfl | rfl | rfl | rfl | rfl
  · obtain ⟨found, hfound⟩ := h.description.exists_holds hvalue
    exact ⟨_, bind_eq_ok_iff.mpr ⟨found, hfound, rfl⟩⟩
  · obtain ⟨found, name, hread, -⟩ := h.method.exists_holds hvalue
    exact ⟨_, bind_eq_ok_iff.mpr ⟨name, hread, rfl⟩⟩
  · obtain ⟨found, hfound⟩ := h.path.exists_holds hvalue
    exact ⟨_, bind_eq_ok_iff.mpr ⟨found, hfound, rfl⟩⟩
  · obtain ⟨found, name, hread, -⟩ := h.format.exists_holds hvalue
    exact ⟨_, bind_eq_ok_iff.mpr ⟨name, hread, rfl⟩⟩
  · obtain ⟨found, hfound⟩ := h.payload.exists_holds hvalue
    exact ⟨_, bind_eq_ok_iff.mpr ⟨found, hfound, rfl⟩⟩
  · obtain ⟨found, hfound⟩ := h.next.exists_holds hvalue
    exact ⟨_, bind_eq_ok_iff.mpr ⟨found, hfound, rfl⟩⟩

/-- What is found by its name is determined by what is read. -/
theorem eq_of_named {α : Type} {read : Except Decode.Error String} {ofName? : String → Option α}
    {first second : α} (hfirst : ∃ name, read = .ok name ∧ ofName? name = some first)
    (hsecond : ∃ name, read = .ok name ∧ ofName? name = some second) : first = second := by
  obtain ⟨name, hread, hfirst⟩ := hfirst
  obtain ⟨_, hread', hsecond⟩ := hsecond
  obtain rfl := Except.ok.inj (hread.symm.trans hread')
  exact Option.some.inj (hfirst.symm.trans hsecond)

/-- A tree holds one entry at most. -/
theorem ReadFrom.unique {draft' : Draft} (h : draft.ReadFrom tree) (h' : draft'.ReadFrom tree) :
    draft = draft' := by
  have hread {α : Type} {read : Decode.Place → Tree → Except Decode.Error α} (value : Tree)
      (a b : α) (ha : read .root value = .ok a) (hb : read .root value = .ok b) : a = b :=
    Except.ok.inj (ha.symm.trans hb)
  obtain ⟨description, method, path, format, payload, next⟩ := draft
  obtain ⟨description', method', path', format', payload', next'⟩ := draft'
  congr
  · exact h.description.unique hread h'.description
  · exact h.method.unique (fun _ _ _ => eq_of_named) h'.method
  · exact h.path.unique hread h'.path
  · exact h.format.unique (fun _ _ _ => eq_of_named) h'.format
  · exact h.payload.unique hread h'.payload
  · exact h.next.unique hread h'.next

end Draft

/-- An entry is read exactly from a record that holds its fields, the required ones among them. -/
theorem ofTree_eq_ok_iff {place : Decode.Place} {tree : Tree} {descriptor : Descriptor} :
    ofTree place tree = .ok descriptor ↔
      ∃ draft : Draft, draft.ReadFrom tree ∧ draft.finish place = .ok descriptor := by
  constructor
  · intro h
    obtain ⟨fields, hfields, h⟩ := bind_eq_ok_iff.mp h
    obtain ⟨draft, hdraft, h⟩ := bind_eq_ok_iff.mp h
    exact ⟨draft, Draft.readFrom_of_readFields hfields hdraft, h⟩
  · rintro ⟨draft, hread, h⟩
    have hunread (name : String) : Draft.empty.has name = false := by
      simp [Draft.has_eq, Draft.empty]
    obtain ⟨fields, draft', hfields, hdraft'⟩ :=
      Tree.exists_readFields_of_isRecord Draft.marks_add hread.record hunread
        (fun name hname value hvalue place start => hread.exists_add hname hvalue start place)
        place "struct RequestDescriptor"
    obtain rfl := hread.unique (Draft.readFrom_of_readFields hfields hdraft')
    exact bind_eq_ok_iff.mpr ⟨fields, hfields, bind_eq_ok_iff.mpr ⟨draft, hdraft', h⟩⟩

theorem Draft.ReadFrom.shuffled {draft : Draft} {tree tree' : Tree} (h : draft.ReadFrom tree)
    (hshuffled : tree.Shuffled tree') : draft.ReadFrom tree' where
  record := h.record.shuffled hshuffled
  description := h.description.shuffled h.record hshuffled
  method := h.method.shuffled h.record hshuffled
  path := h.path.shuffled h.record hshuffled
  format := h.format.shuffled h.record hshuffled
  payload := h.payload.shuffled h.record hshuffled
  next := h.next.shuffled h.record hshuffled

/-- An entry is read alike in whatever order its fields are written. -/
theorem ofTree_shuffled {tree tree' : Tree} (h : tree.Shuffled tree') (place : Decode.Place) :
    Decode.Agree (ofTree place tree) (ofTree place tree') := by
  refine .of_iff fun descriptor => ?_
  rw [ofTree_eq_ok_iff, ofTree_eq_ok_iff]
  exact exists_congr fun draft =>
    and_congr_left fun _ => ⟨fun hread => hread.shuffled h, fun hread => hread.shuffled h.symm⟩

end Descriptor

/-! ### Tables -/

namespace Table

/-- The entries that stand in a mapping. -/
def HoldsEntries (value : Tree) (found : List (String × Descriptor)) : Prop :=
  Draft.readEntries .root value = .ok found

/-- The fields of a table are those that a tree holds. -/
structure Draft.ReadFrom (tree : Tree) (draft : Draft) : Prop where
  record : tree.IsRecord fieldNames
  name : tree.Field Descriptor.HoldsText? "name" draft.name
  entries : tree.Field HoldsEntries "test_cases" draft.entries

namespace Draft

variable {draft next : Draft} {name : String} {place : Decode.Place} {value tree : Tree}

/-- Entries are read one for one, each on its own. -/
theorem readEntries_eq_ok_iff {found : List (String × Descriptor)} :
    readEntries place value = .ok found ↔
      ∃ entries, value.entries? = some entries ∧
        List.Forall₂ (fun entry pair => entry.1 = some pair.1 ∧
          Descriptor.ofTree .root entry.2 = .ok pair.2) (Tree.pairs entries) found := by
  constructor
  · intro h
    obtain ⟨entries, hentries, hread⟩ := exists_entries_of_readEntries h
    refine ⟨entries, hentries, ?_⟩
    rw [Tree.pairs, List.forall₂_map_left_iff]
    refine hread.imp fun entry pair h => ⟨h.1, ?_⟩
    exact (Descriptor.ofTree_agree _ _ _).eq_ok h.2
  · rintro ⟨entries, hentries, hread⟩
    rw [Tree.pairs, List.forall₂_map_left_iff] at hread
    have hfields : value.readEntries "a map" place =
        .ok (entries.map fun entry => ((entry.1, entry.2.1), entry.2.2)) := by
      rw [Tree.readEntries, hentries]
    refine bind_eq_ok_iff.mpr ⟨_, hfields, ?_⟩
    rw [mapM_eq_ok_iff, List.forall₂_map_left_iff]
    refine hread.imp fun entry pair h => ?_
    have hdescriptor := (Descriptor.ofTree_agree .root (.member place entry.2.1) _).eq_ok h.2
    refine bind_eq_ok_iff.mpr ⟨_, Tree.readText_eq_ok_iff.mpr h.1, ?_⟩
    exact bind_eq_ok_iff.mpr ⟨_, hdescriptor, rfl⟩

theorem readEntries_agree (place place' : Decode.Place) (value : Tree) :
    Decode.Agree (readEntries place value) (readEntries place' value) := by
  refine .of_iff fun found => ?_
  rw [readEntries_eq_ok_iff, readEntries_eq_ok_iff]

theorem has_eq {draft : Draft} {other : String} :
    draft.has other =
      ((other == "name" && draft.name.isSome) ||
        (other == "test_cases" && draft.entries.isSome)) := by
  unfold has
  split <;> simp_all

theorem marks_add : Decode.Marks fieldNames has add := by
  intro draft name place value next hname hnext other
  simp only [fieldNames, List.mem_cons, List.not_mem_nil, or_false] at hname
  rcases hname with rfl | rfl <;>
    obtain ⟨found, hfound, hnext⟩ := bind_eq_ok_iff.mp hnext <;> cases hnext
  all_goals
    simp only [has_eq, Option.isSome_some]
    grind

theorem add_agree (draft : Draft) (name : String) (place place' : Decode.Place) (value : Tree) :
    Decode.Agree (draft.add name place value) (draft.add name place' value) := by
  unfold add
  split
  · exact .bind (Tree.readOptional_agree Tree.readText_agree _ _ value) fun _ => .refl _
  · exact .bind (readEntries_agree _ _ value) fun _ => .refl _
  · exact .refl _

/-- A field that is added is what its value holds. -/
theorem holds_of_add (h : draft.add name place value = .ok next) :
    (name = "name" → ∃ found, Descriptor.HoldsText? value found ∧ next.name = some found) ∧
    (name = "test_cases" → ∃ found, HoldsEntries value found ∧ next.entries = some found) := by
  have hroot := (draft.add_agree name place .root value).eq_ok h
  unfold add at hroot
  split at hroot
  case h_3 => simp_all
  all_goals
    obtain ⟨found, hfound, hroot⟩ := bind_eq_ok_iff.mp hroot
    cases hroot
    simp only [String.reduceEq, false_imp_iff, true_imp_iff, true_and, and_true]
    exact ⟨found, hfound, rfl⟩

/-- Every other field is kept. -/
theorem keeps_of_add (h : draft.add name place value = .ok next) :
    (name ≠ "name" → next.name = draft.name) ∧
    (name ≠ "test_cases" → next.entries = draft.entries) := by
  unfold add at h
  split at h
  case h_3 =>
    cases h
    simp
  all_goals
    obtain ⟨_, -, h⟩ := bind_eq_ok_iff.mp h
    cases h
    simp

/-- What is read field by field is what stands under the names of the fields. -/
theorem readFrom_of_readFields {expected : String} {fields : List ((Tree × Option String) × Tree)}
    (hfields : tree.readEntries expected place = .ok fields)
    (h : Decode.readFields (Tree.keys place) place fieldNames has add ⟨none, none⟩ fields =
      .ok draft) : draft.ReadFrom tree where
  record := Tree.isRecord_of_readFields marks_add hfields h
  name :=
    Tree.field_of_readFields (fun _ h => h) (fun _ _ _ _ _ hne h => (keeps_of_add h).1 hne)
      (fun _ _ _ _ h => (holds_of_add h).1 rfl) hfields h rfl
  entries :=
    Tree.field_of_readFields (fun _ h => h) (fun _ _ _ _ _ hne h => (keeps_of_add h).2 hne)
      (fun _ _ _ _ h => (holds_of_add h).2 rfl) hfields h rfl

/-- A field that a record holds can be added, at any place. -/
theorem ReadFrom.exists_add (h : draft.ReadFrom tree) (hname : name ∈ fieldNames)
    (hvalue : tree.under? name = some value) (start : Draft) (place : Decode.Place) :
    ∃ next, start.add name place value = .ok next := by
  suffices hroot : ∃ next, start.add name .root value = .ok next by
    obtain ⟨next, hnext⟩ := hroot
    exact ⟨next, (start.add_agree name .root place value).eq_ok hnext⟩
  simp only [fieldNames, List.mem_cons, List.not_mem_nil, or_false] at hname
  rcases hname with rfl | rfl
  · obtain ⟨found, hfound⟩ := h.name.exists_holds hvalue
    exact ⟨_, bind_eq_ok_iff.mpr ⟨found, hfound, rfl⟩⟩
  · obtain ⟨found, hfound⟩ := h.entries.exists_holds hvalue
    exact ⟨_, bind_eq_ok_iff.mpr ⟨found, hfound, rfl⟩⟩

/-- A tree holds one table at most. -/
theorem ReadFrom.unique {draft' : Draft} (h : draft.ReadFrom tree) (h' : draft'.ReadFrom tree) :
    draft = draft' := by
  obtain ⟨name, entries⟩ := draft
  obtain ⟨name', entries'⟩ := draft'
  congr
  · exact h.name.unique (fun _ _ _ ha hb => Except.ok.inj (ha.symm.trans hb)) h'.name
  · exact h.entries.unique (fun _ _ _ ha hb => Except.ok.inj (ha.symm.trans hb)) h'.entries

end Draft

/-- A table is read exactly from a record that holds its fields, the entries among them. -/
theorem ofTree_eq_ok_iff {tree : Tree} {table : Table} :
    ofTree tree = .ok table ↔ ∃ draft : Draft, draft.ReadFrom tree ∧ draft.finish = .ok table := by
  constructor
  · intro h
    obtain ⟨fields, hfields, h⟩ := bind_eq_ok_iff.mp h
    obtain ⟨draft, hdraft, h⟩ := bind_eq_ok_iff.mp h
    exact ⟨draft, Draft.readFrom_of_readFields hfields hdraft, h⟩
  · rintro ⟨draft, hread, h⟩
    have hunread (name : String) : Draft.has ⟨none, none⟩ name = false := by
      simp [Draft.has_eq]
    obtain ⟨fields, draft', hfields, hdraft'⟩ :=
      Tree.exists_readFields_of_isRecord Draft.marks_add hread.record hunread
        (fun name hname value hvalue place start => hread.exists_add hname hvalue start place)
        .root "struct TableFile"
    obtain rfl := hread.unique (Draft.readFrom_of_readFields hfields hdraft')
    exact bind_eq_ok_iff.mpr ⟨fields, hfields, bind_eq_ok_iff.mpr ⟨draft, hdraft', h⟩⟩

end Table

end Stimulus
