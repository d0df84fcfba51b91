import Mathlib.Data.List.Nodup
import Stimulus.Toml.Document

/-! The names of a document's fields.  Statements add a field under a name that is not there, or
change the one that is, so no two fields of a document that is read have the same name. -/

namespace Stimulus.Toml

namespace Fields

/-- No two fields have the same name. -/
def Distinct (fields : Fields) : Prop :=
  (fields.map (·.1)).Nodup

variable {fields fields' : Fields} {name : String} {item : Item}

theorem distinct_nil : Distinct [] := List.nodup_nil

theorem Distinct.add (h : fields.Distinct) (hnone : fields.get? name = none) :
    (fields.add name item).Distinct := by
  have hnew : name ∉ fields.map (·.1) := by
    intro hmem
    obtain ⟨field, hfield, rfl⟩ := List.mem_map.mp hmem
    have hne := List.lookup_eq_none_iff.mp hnone field hfield
    simp at hne
  have hnames := h.concat hnew
  rw [List.concat_eq_append] at hnames
  rw [Distinct, Fields.add, List.map_append]
  exact hnames

theorem Distinct.set (h : fields.Distinct) : (fields.set name item).Distinct := by
  have hnames : (fields.set name item).map (·.1) = fields.map (·.1) := by
    rw [Fields.set, List.map_map]
    refine List.map_congr_left fun field _ => ?_
    obtain ⟨n, old⟩ := field
    dsimp only [Function.comp]
    split <;> rfl
  rw [Distinct, hnames]
  exact h

theorem Distinct.remove_add (h : fields.Distinct) :
    ((fields.remove name).add name item).Distinct := by
  have hrest : (fields.remove name).Distinct := h.sublist (List.filter_sublist.map _)
  refine hrest.add (List.lookup_eq_none_iff.mpr fun field hfield => ?_)
  have hne := bne_iff_ne.mp (List.mem_filter.mp hfield).2
  exact bne_iff_ne.mpr hne.symm

theorem Distinct.openTable (h : fields.Distinct) (hopen : openTable name fields = some fields') :
    fields'.Distinct := by
  unfold Fields.openTable at hopen
  split at hopen
  · rename_i hnone
    cases hopen
    exact h.add hnone
  · cases hopen
    exact h.remove_add
  · cases hopen

theorem Distinct.openItem (h : fields.Distinct) (hopen : openItem name fields = some fields') :
    fields'.Distinct := by
  unfold Fields.openItem at hopen
  split at hopen
  · rename_i hnone
    cases hopen
    exact h.add hnone
  · cases hopen
    exact h.set
  · cases hopen

theorem Distinct.put {value : Value} {own : Bool} {path : List String} (h : fields.Distinct)
    (hput : put value own path fields = some fields') : fields'.Distinct := by
  unfold Fields.put at hput
  split at hput
  · cases hput
  · split at hput
    · rename_i hnew
      cases hput
      exact h.add (Option.isNone_iff_eq_none.mp hnew.2)
    · cases hput
  · split at hput
    · rename_i hnone
      obtain ⟨inner, -, rfl⟩ := Option.map_eq_some_iff.mp hput
      exact h.add hnone
    · cases hput
    · obtain ⟨inner, -, rfl⟩ := Option.map_eq_some_iff.mp hput
      exact h.set
    · obtain ⟨items, -, rfl⟩ := Option.map_eq_some_iff.mp hput
      exact h.set
    · cases hput

/-- Only a change of these fields themselves has to keep the names distinct; one farther down puts
another item under a name. -/
theorem Distinct.change {f : Fields → Option Fields} {path : List String} (h : fields.Distinct)
    (hf : ∀ {fields fields' : Fields}, fields.Distinct → f fields = some fields' →
      fields'.Distinct)
    (hchange : change f path fields = some fields') : fields'.Distinct := by
  unfold Fields.change at hchange
  split at hchange
  · exact hf h hchange
  · split at hchange
    · rename_i hnone
      obtain ⟨inner, -, rfl⟩ := Option.map_eq_some_iff.mp hchange
      exact h.add hnone
    · obtain ⟨inner, -, rfl⟩ := Option.map_eq_some_iff.mp hchange
      exact h.set
    · obtain ⟨items, -, rfl⟩ := Option.map_eq_some_iff.mp hchange
      exact h.set
    · cases hchange

end Fields

theorem map_fst_fieldValues (fields : Fields) :
    (fieldValues fields).map (·.1) = fields.map (·.1) := by
  induction fields with
  | nil => rfl
  | cons field fields ih =>
    obtain ⟨name, item⟩ := field
    rw [fieldValues, List.map_cons, List.map_cons, ih]

variable {state state' : State} {text rest : List Char}

theorem distinct_of_readHeader (h : state.root.Distinct)
    (hread : readHeader state text = some (state', rest)) : state'.root.Distinct := by
  unfold readHeader at hread
  split at hread
  rename_i double text hopened
  obtain ⟨⟨path, behind⟩, -, hread⟩ := Option.bind_eq_some_iff.mp hread
  obtain ⟨behind, -, hread⟩ := Option.bind_eq_some_iff.mp hread
  -- A second bracket is read only if there were two in front.
  cases double with
  | true =>
    obtain ⟨behind, -, hread⟩ := Option.bind_eq_some_iff.mp hread
    obtain ⟨name, -, hread⟩ := Option.bind_eq_some_iff.mp hread
    obtain ⟨root, hroot, hread⟩ := Option.bind_eq_some_iff.mp hread
    obtain ⟨behind, -, hread⟩ := Option.bind_eq_some_iff.mp hread
    cases hread
    exact h.change (fun hfields hopen => hfields.openItem hopen) hroot
  | false =>
    obtain ⟨name, -, hread⟩ := Option.bind_eq_some_iff.mp hread
    obtain ⟨root, hroot, hread⟩ := Option.bind_eq_some_iff.mp hread
    obtain ⟨behind, -, hread⟩ := Option.bind_eq_some_iff.mp hread
    cases hread
    exact h.change (fun hfields hopen => hfields.openTable hopen) hroot

theorem distinct_of_readEntry (h : state.root.Distinct)
    (hread : readEntry state text = some (state', rest)) : state'.root.Distinct := by
  unfold readEntry at hread
  obtain ⟨⟨key, behind⟩, -, hread⟩ := Option.bind_eq_some_iff.mp hread
  obtain ⟨behind, -, hread⟩ := Option.bind_eq_some_iff.mp hread
  obtain ⟨⟨value, behind⟩, -, hread⟩ := Option.bind_eq_some_iff.mp hread
  obtain ⟨root, hroot, hread⟩ := Option.bind_eq_some_iff.mp hread
  obtain ⟨behind, -, hread⟩ := Option.bind_eq_some_iff.mp hread
  cases hread
  exact h.change (fun hfields hput => hfields.put hput) hroot

theorem distinct_of_readStatements {fuel : Nat} {root : Fields} (h : state.root.Distinct)
    (hread : readStatements fuel state text = some root) : root.Distinct := by
  induction fuel generalizing state text with
  | zero => cases hread
  | succ fuel ih =>
    unfold readStatements at hread
    split at hread
    · cases hread
      exact h
    · obtain ⟨⟨next, behind⟩, hheader, hread⟩ := Option.bind_eq_some_iff.mp hread
      exact ih (distinct_of_readHeader h hheader) hread
    · split at hread
      · obtain ⟨behind, -, hread⟩ := Option.bind_eq_some_iff.mp hread
        exact ih h hread
      · obtain ⟨⟨next, behind⟩, hentry, hread⟩ := Option.bind_eq_some_iff.mp hread
        exact ih (distinct_of_readEntry h hentry) hread

/-- No two fields of a document have the same name. -/
theorem nodup_of_parse {text : String} {fields : List (String × Value)}
    (h : parse text = some fields) : (fields.map (·.1)).Nodup := by
  obtain ⟨root, hroot, rfl⟩ := Option.map_eq_some_iff.mp h
  rw [map_fst_fieldValues]
  exact distinct_of_readStatements Fields.distinct_nil hroot

end Stimulus.Toml
