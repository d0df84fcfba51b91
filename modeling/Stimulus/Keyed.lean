/-!
Association lists in the order of their keys.  `insert` keeps the keys strictly increasing and
lets the last value written under a key stand; `get?_insert` says what a look-up finds afterwards,
and `sorted_insert` that the order is kept.
-/

namespace Stimulus.Keyed

variable {α : Type}

/-- The pairs with strictly increasing keys. -/
def Sorted (pairs : List (String × α)) : Prop :=
  pairs.Pairwise fun a b => a.1 < b.1

/-- The pairs with `value` under `key`, in place of what was there. -/
def insert (key : String) (value : α) : List (String × α) → List (String × α)
  | [] => [(key, value)]
  | (k, v) :: rest =>
    if key < k then (key, value) :: (k, v) :: rest
    else if key = k then (key, value) :: rest
    else (k, v) :: insert key value rest

/-- The value under `key`. -/
def get? (key : String) : List (String × α) → Option α
  | [] => none
  | (k, v) :: rest => if key = k then some v else get? key rest

/-- The pairs in the order of their keys, the last value of a key standing. -/
def ofList (pairs : List (String × α)) : List (String × α) :=
  pairs.foldl (fun sorted pair => insert pair.1 pair.2 sorted) []

theorem mem_insert {key : String} {value : α} {pair : String × α} {pairs : List (String × α)}
    (h : pair ∈ insert key value pairs) : pair = (key, value) ∨ pair ∈ pairs := by
  induction pairs with
  | nil => simp_all [insert]
  | cons p rest ih =>
    obtain ⟨k, v⟩ := p
    simp only [insert] at h
    split at h
    · simpa using h
    · split at h
      · rcases List.mem_cons.1 h with h | h
        · exact .inl h
        · exact .inr (.tail _ h)
      · rcases List.mem_cons.1 h with h | h
        · exact .inr (h ▸ .head _)
        · exact (ih h).imp_right (.tail _)

theorem sorted_insert {key : String} {value : α} {pairs : List (String × α)}
    (h : Sorted pairs) : Sorted (insert key value pairs) := by
  induction pairs with
  | nil => simp [insert, Sorted]
  | cons p rest ih =>
    obtain ⟨k, v⟩ := p
    obtain ⟨hk, hrest⟩ := List.pairwise_cons.1 h
    simp only [insert]
    split
    · rename_i hlt
      refine List.pairwise_cons.2 ⟨fun q hq => ?_, h⟩
      rcases List.mem_cons.1 hq with rfl | hq
      · exact hlt
      · exact String.lt_trans hlt (hk q hq)
    · split
      · rename_i heq
        subst heq
        exact List.pairwise_cons.2 ⟨hk, hrest⟩
      · rename_i hnlt hne
        refine List.pairwise_cons.2 ⟨fun q hq => ?_, ih hrest⟩
        rcases mem_insert hq with rfl | hq
        · exact Std.lt_of_le_of_ne (String.not_lt.1 hnlt) (Ne.symm hne)
        · exact hk q hq

theorem sorted_ofList (pairs : List (String × α)) : Sorted (ofList pairs) := by
  suffices h : ∀ sorted : List (String × α), Sorted sorted →
      Sorted (pairs.foldl (fun sorted pair => insert pair.1 pair.2 sorted) sorted) from
    h [] List.Pairwise.nil
  induction pairs with
  | nil => exact fun _ h => h
  | cons p rest ih => exact fun _ h => ih _ (sorted_insert h)

/-- A look-up after `insert` finds the new value under its key and the old ones elsewhere. -/
theorem get?_insert (key other : String) (value : α) (pairs : List (String × α)) :
    get? other (insert key value pairs) = if other = key then some value else get? other pairs := by
  induction pairs with
  | nil => simp [insert, get?]
  | cons p rest ih =>
    obtain ⟨k, v⟩ := p
    simp only [insert]
    split
    · simp [get?]
    · split
      · rename_i heq
        subst heq
        by_cases h : other = key <;> simp [get?, h]
      · rename_i hne
        by_cases h : other = k
        · subst h
          have : other ≠ key := fun h => hne h.symm
          simp [get?, this]
        · simp [get?, h, ih]

end Stimulus.Keyed
