import Mathlib.Data.List.Dedup
import Stimulus.Keyed

/-! Look-ups in association lists: `get?` finds a pair of the list, and it finds one under every
key that the list has; the pairs in order are pairs of the list that was put in order, all of them
if no key comes twice, and the last one of each key otherwise. -/

namespace Stimulus.Keyed

variable {α : Type}

theorem mem_of_get? {key : String} {value : α} {pairs : List (String × α)}
    (h : get? key pairs = some value) : (key, value) ∈ pairs := by
  induction pairs with
  | nil => simp [get?] at h
  | cons pair rest ih =>
    obtain ⟨k, v⟩ := pair
    rw [get?] at h
    split at h
    · rename_i hk
      obtain rfl := Option.some.inj h
      simp [hk]
    · exact .tail _ (ih h)

theorem exists_get?_of_mem {key : String} {pairs : List (String × α)}
    (h : key ∈ pairs.map (·.1)) : ∃ value, get? key pairs = some value := by
  induction pairs with
  | nil => simp at h
  | cons pair rest ih =>
    obtain ⟨k, v⟩ := pair
    rw [get?]
    by_cases hk : key = k
    · exact ⟨v, by simp [hk]⟩
    · obtain ⟨value, hvalue⟩ := ih (by simpa [hk] using h)
      exact ⟨value, by simp [hk, hvalue]⟩

theorem get?_of_mem_of_nodup {pair : String × α} {pairs : List (String × α)}
    (hdistinct : (pairs.map (·.1)).Nodup) (h : pair ∈ pairs) :
    get? pair.1 pairs = some pair.2 := by
  induction pairs with
  | nil => cases h
  | cons first rest ih =>
    rw [List.map_cons, List.nodup_cons] at hdistinct
    obtain ⟨hfirst, hrest⟩ := hdistinct
    rw [get?]
    rcases List.mem_cons.mp h with rfl | h
    · exact if_pos rfl
    · have hne : pair.1 ≠ first.1 := fun heq => hfirst (heq ▸ List.mem_map_of_mem h)
      rw [if_neg hne, ih hrest h]

theorem nodup_keys_of_sorted {pairs : List (String × α)} (h : Sorted pairs) :
    (pairs.map (·.1)).Nodup :=
  List.pairwise_map.mpr (h.imp fun hlt => Std.ne_of_lt hlt)

theorem get?_of_mem {pair : String × α} {pairs : List (String × α)} (hsorted : Sorted pairs)
    (h : pair ∈ pairs) : get? pair.1 pairs = some pair.2 :=
  get?_of_mem_of_nodup (nodup_keys_of_sorted hsorted) h

theorem get?_eq_none {key : String} {pairs : List (String × α)} (h : key ∉ pairs.map (·.1)) :
    get? key pairs = none := by
  cases hfound : get? key pairs with
  | none => rfl
  | some value => exact absurd (List.mem_map_of_mem (f := (·.1)) (mem_of_get? hfound)) h

theorem mem_of_mem_ofList {pair : String × α} {pairs : List (String × α)}
    (h : pair ∈ ofList pairs) : pair ∈ pairs := by
  have hfold : ∀ sorted : List (String × α),
      pair ∈ pairs.foldl (fun sorted pair => insert pair.1 pair.2 sorted) sorted →
        pair ∈ sorted ∨ pair ∈ pairs := by
    clear h
    induction pairs with
    | nil => exact fun sorted h => .inl h
    | cons first rest ih =>
      intro sorted h
      rcases ih _ h with h | h
      · rcases mem_insert h with rfl | h
        · exact .inr (.head _)
        · exact .inl h
      · exact .inr (.tail _ h)
  simpa using hfold [] h

theorem insert_of_lt {key : String} {value : α} {pairs : List (String × α)}
    (h : ∀ pair ∈ pairs, pair.1 < key) : insert key value pairs = pairs ++ [(key, value)] := by
  induction pairs with
  | nil => rfl
  | cons pair pairs ih =>
    have hpair := h pair (.head _)
    rw [insert, if_neg (String.not_lt.mpr (Std.le_of_lt hpair)), if_neg (Std.ne_of_lt hpair).symm,
      ih fun pair hpair => h pair (.tail _ hpair)]
    rfl

theorem ofList_eq_self {pairs : List (String × α)} (h : Sorted pairs) : ofList pairs = pairs := by
  suffices hfold : ∀ sorted : List (String × α), Sorted (sorted ++ pairs) →
      pairs.foldl (fun sorted pair => insert pair.1 pair.2 sorted) sorted = sorted ++ pairs from
    hfold [] h
  clear h
  induction pairs with
  | nil => simp
  | cons pair pairs ih =>
    intro sorted h
    have hbefore : ∀ other ∈ sorted, other.1 < pair.1 := by
      obtain ⟨-, -, hcross⟩ := List.pairwise_append.mp h
      exact fun other hother => hcross other hother pair (.head _)
    rw [List.foldl_cons, insert_of_lt hbefore, ih _ (by simpa using h)]
    simp

theorem insert_perm {key : String} {value : α} {pairs : List (String × α)}
    (h : key ∉ pairs.map (·.1)) : (insert key value pairs).Perm ((key, value) :: pairs) := by
  induction pairs with
  | nil => exact .refl _
  | cons pair pairs ih =>
    have hkey : key ≠ pair.1 := fun heq => h (by simp [heq])
    have hrest : key ∉ pairs.map (·.1) := fun hmem => h (.tail _ hmem)
    rw [insert]
    split
    · exact .refl _
    · exact ((ih hrest).cons pair).trans (.swap _ _ _)

theorem perm_ofList {pairs : List (String × α)} (h : (pairs.map (·.1)).Nodup) :
    (ofList pairs).Perm pairs := by
  suffices hfold : ∀ sorted : List (String × α), ((sorted ++ pairs).map (·.1)).Nodup →
      (pairs.foldl (fun sorted pair => insert pair.1 pair.2 sorted) sorted).Perm
        (sorted ++ pairs) from hfold [] h
  clear h
  induction pairs with
  | nil => simp
  | cons pair pairs ih =>
    intro sorted h
    have hkey : pair.1 ∉ sorted.map (·.1) := by
      rw [List.map_append, List.nodup_append] at h
      exact fun hmem => h.2.2 pair.1 hmem pair.1 (.head _) rfl
    have hinsert : (insert pair.1 pair.2 sorted ++ pairs).Perm (sorted ++ pair :: pairs) :=
      ((insert_perm hkey).append_right pairs).trans List.perm_middle.symm
    have hdistinct := ((hinsert.map (·.1)).nodup_iff).mpr h
    exact (ih _ hdistinct).trans hinsert

/-- In whatever order pairs with distinct keys stand, the same list is made of them. -/
theorem ofList_eq_of_perm {pairs pairs' : List (String × α)} (h : pairs.Perm pairs')
    (hdistinct : (pairs.map (·.1)).Nodup) : ofList pairs = ofList pairs' := by
  have hdistinct' := ((h.map (·.1)).nodup_iff).mp hdistinct
  have hperm := (perm_ofList hdistinct).trans (h.trans (perm_ofList hdistinct').symm)
  refine hperm.eq_of_pairwise (fun first second _ _ hlt hgt => ?_) (sorted_ofList _)
    (sorted_ofList _)
  exact absurd (String.lt_trans hlt hgt) (String.lt_irrefl first.1)

theorem get?_ofList (key : String) (pairs : List (String × α)) :
    get? key (ofList pairs) =
      pairs.findSomeRev? fun pair => if key = pair.1 then some pair.2 else none := by
  suffices hfold : ∀ sorted : List (String × α),
      get? key (pairs.foldl (fun sorted pair => insert pair.1 pair.2 sorted) sorted) =
        (pairs.findSomeRev? fun pair => if key = pair.1 then some pair.2 else none).or
          (get? key sorted) by
    rw [ofList, hfold [], get?, Option.or_none]
  induction pairs with
  | nil => exact fun sorted => rfl
  | cons pair pairs ih =>
    intro sorted
    rw [List.foldl_cons, ih, get?_insert, List.findSomeRev?]
    cases pairs.findSomeRev? fun pair => if key = pair.1 then some pair.2 else none with
    | some value => rfl
    | none =>
      dsimp only
      split <;> rfl

theorem mem_keys_ofList_iff {key : String} {pairs : List (String × α)} :
    key ∈ (ofList pairs).map (·.1) ↔ key ∈ pairs.map (·.1) := by
  constructor
  · intro h
    obtain ⟨pair, hpair, rfl⟩ := List.mem_map.mp h
    exact List.mem_map_of_mem (mem_of_mem_ofList hpair)
  · intro h
    obtain ⟨pair, hpair, rfl⟩ := List.mem_map.mp h
    by_contra hnot
    have hnone := get?_eq_none hnot
    rw [get?_ofList, List.findSomeRev?_eq_findSome?_reverse, List.findSome?_eq_none_iff] at hnone
    have hpair := hnone pair (List.mem_reverse.mpr hpair)
    rw [if_pos rfl] at hpair
    cases hpair

/-- Putting pairs in order keeps one of each key. -/
theorem length_ofList (pairs : List (String × α)) :
    (ofList pairs).length = (pairs.map (·.1)).dedup.length := by
  have hperm : ((ofList pairs).map (·.1)).Perm (pairs.map (·.1)).dedup := by
    refine (List.perm_ext_iff_of_nodup (nodup_keys_of_sorted (sorted_ofList pairs))
      (List.nodup_dedup _)).mpr fun key => ?_
    rw [mem_keys_ofList_iff, List.mem_dedup]
  simpa using hperm.length_eq

theorem length_ofList_eq_iff {pairs : List (String × α)} :
    (ofList pairs).length = pairs.length ↔ (pairs.map (·.1)).Nodup := by
  rw [length_ofList, ← List.dedup_eq_self]
  constructor
  · intro h
    exact (List.dedup_sublist _).eq_of_length (by rw [h, List.length_map])
  · intro h
    rw [h, List.length_map]

end Stimulus.Keyed
