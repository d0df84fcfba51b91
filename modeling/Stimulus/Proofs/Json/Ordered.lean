import Stimulus.Json.Reader
import Stimulus.Proofs.Keyed
import Stimulus.Proofs.Result

/-! Values that are read from text.  In all their objects, at any depth, the members stand in the
order of their names and each name once, so one look-up finds everything that an object says under
a name. -/

namespace Stimulus.Json

/-- In every object of the value the members stand in order, each name once. -/
inductive Ordered : Json → Prop
  | null : Ordered .null
  | boolean (value : Bool) : Ordered (.boolean value)
  | number (value : Number) : Ordered (.number value)
  | string (value : String) : Ordered (.string value)
  | array {items : List Json} (inside : ∀ item ∈ items, Ordered item) : Ordered (.array items)
  | object {members : List (String × Json)} (sorted : Keyed.Sorted members)
      (inside : ∀ member ∈ members, Ordered member.2) : Ordered (.object members)

theorem ordered_ofMembers {members : List (String × Json)}
    (h : ∀ member ∈ members, Ordered member.2) : Ordered (ofMembers members) :=
  .object (Keyed.sorted_ofList members) fun member hmember =>
    h member (Keyed.mem_of_mem_ofList hmember)

/-- What the reader gives with an amount of fuel is ordered. -/
structure ReadsOrdered (fuel : Nat) : Prop where
  value : ∀ {depth text value rest}, readValue fuel depth text = .ok (value, rest) → Ordered value
  items : ∀ {depth text items rest}, readItems fuel depth text = .ok (items, rest) →
    ∀ item ∈ items, Ordered item
  members : ∀ {depth text members rest}, readMembers fuel depth text = .ok (members, rest) →
    ∀ member ∈ members, Ordered member.2

namespace ReadsOrdered

variable {fuel depth : Nat} {text rest : List Char}

theorem zero : ReadsOrdered 0 where
  value h := by simp [readValue] at h
  items h := by simp [readItems] at h
  members h := by simp [readMembers] at h

-- The cases are those of the reader, by the first character of the value.
theorem value_succ (reads : ReadsOrdered fuel) {value : Json}
    (h : readValue (fuel + 1) depth text = .ok (value, rest)) : Ordered value := by
  rw [readValue] at h
  split at h
  · cases h
    exact .null
  · cases h
    exact .boolean true
  · cases h
    exact .boolean false
  · split at h
    · cases h
      exact .string _
    · cases h
  · split at h
    · cases h
    · split at h
      · cases h
        exact .array (by simp)
      · obtain ⟨⟨items, rest⟩, hitems, h⟩ := bind_eq_ok_iff.mp h
        cases h
        exact .array (reads.items hitems)
  · split at h
    · cases h
    · split at h
      · cases h
        exact .object .nil (by simp)
      · obtain ⟨⟨members, rest⟩, hmembers, h⟩ := bind_eq_ok_iff.mp h
        cases h
        exact ordered_ofMembers (reads.members hmembers)
  · obtain ⟨⟨n, rest⟩, -, h⟩ := bind_eq_ok_iff.mp h
    cases h
    exact .number n

theorem items_succ (reads : ReadsOrdered fuel) {items : List Json}
    (h : readItems (fuel + 1) depth text = .ok (items, rest)) : ∀ item ∈ items, Ordered item := by
  rw [readItems] at h
  obtain ⟨⟨item, rest⟩, hitem, h⟩ := bind_eq_ok_iff.mp h
  have hfirst := reads.value hitem
  dsimp only at h
  split at h
  · obtain ⟨⟨others, rest⟩, hothers, h⟩ := bind_eq_ok_iff.mp h
    cases h
    exact List.forall_mem_cons.mpr ⟨hfirst, reads.items hothers⟩
  · cases h
    exact List.forall_mem_singleton.mpr hfirst
  · cases h

theorem members_succ (reads : ReadsOrdered fuel) {members : List (String × Json)}
    (h : readMembers (fuel + 1) depth text = .ok (members, rest)) :
    ∀ member ∈ members, Ordered member.2 := by
  rw [readMembers] at h
  split at h
  · split at h
    · cases h
    · split at h
      · obtain ⟨⟨value, rest⟩, hvalue, h⟩ := bind_eq_ok_iff.mp h
        have hfirst := reads.value hvalue
        dsimp only at h
        split at h
        · obtain ⟨⟨others, rest⟩, hothers, h⟩ := bind_eq_ok_iff.mp h
          cases h
          exact List.forall_mem_cons.mpr ⟨hfirst, reads.members hothers⟩
        · cases h
          exact List.forall_mem_singleton.mpr hfirst
        · cases h
      · cases h
  · cases h

end ReadsOrdered

theorem readsOrdered (fuel : Nat) : ReadsOrdered fuel := by
  induction fuel with
  | zero => exact .zero
  | succ fuel ih => exact ⟨ih.value_succ, ih.items_succ, ih.members_succ⟩

theorem ordered_of_parse {text : String} {value : Json} (h : parse text = .ok value) :
    Ordered value := by
  rw [parse] at h
  obtain ⟨⟨read, rest⟩, hread, h⟩ := bind_eq_ok_iff.mp h
  dsimp only at h
  split at h
  · cases h
    exact (readsOrdered _).value hread
  · cases h

end Stimulus.Json
