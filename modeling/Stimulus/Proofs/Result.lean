import Mathlib.Data.List.Forall2

/-! Computations that can fail: they succeed exactly when each of their steps does, and fail with
the failure of one. -/

namespace Stimulus

variable {ε δ α β : Type}

theorem bind_eq_ok_iff {result : Except ε α} {next : α → Except ε β} {value : β} :
    (result >>= next) = .ok value ↔ ∃ a, result = .ok a ∧ next a = .ok value := by
  cases result <;> simp [bind, Except.bind]

theorem bind_eq_error_iff {result : Except ε α} {next : α → Except ε β} {e : ε} :
    (result >>= next) = .error e ↔
      result = .error e ∨ ∃ a, result = .ok a ∧ next a = .error e := by
  cases result <;> simp [bind, Except.bind]

theorem exists_bind_pure_iff {f : α → β} {result : Except ε α} :
    (∃ b, (do let a ← result; return f a) = Except.ok b) ↔ ∃ a, result = .ok a := by
  cases result <;> simp [bind, Except.bind, pure, Except.pure]

theorem map_eq_ok_iff {f : α → β} {result : Except ε α} {value : β} :
    result.map f = .ok value ↔ ∃ a, result = .ok a ∧ f a = value := by
  cases result <;> simp [Except.map]

theorem mapError_eq_error_iff {f : ε → δ} {result : Except ε α} {d : δ} :
    result.mapError f = .error d ↔ ∃ e, result = .error e ∧ f e = d := by
  cases result <;> simp [Except.mapError]

theorem mapError_eq_ok_iff {f : ε → δ} {result : Except ε α} {value : α} :
    result.mapError f = .ok value ↔ result = .ok value := by
  cases result <;> simp [Except.mapError]

theorem mapM_eq_ok_iff {f : α → Except ε β} {items : List α} {values : List β} :
    items.mapM f = .ok values ↔
      List.Forall₂ (fun item value => f item = .ok value) items values := by
  induction items generalizing values with
  | nil =>
    rw [List.forall₂_nil_left_iff]
    simp [pure, Except.pure, eq_comm]
  | cons item rest ih =>
    rw [List.mapM_cons, List.forall₂_cons_left_iff, bind_eq_ok_iff]
    constructor
    · rintro ⟨value, hitem, h⟩
      obtain ⟨values, hrest, h⟩ := bind_eq_ok_iff.mp h
      cases h
      exact ⟨value, values, hitem, ih.mp hrest, rfl⟩
    · rintro ⟨value, values, hitem, hrest, rfl⟩
      refine ⟨value, hitem, bind_eq_ok_iff.mpr ⟨values, ih.mpr hrest, rfl⟩⟩

theorem mapM_eq_some_iff {f : α → Option β} {items : List α} {values : List β} :
    items.mapM f = some values ↔
      List.Forall₂ (fun item value => f item = some value) items values := by
  induction items generalizing values with
  | nil =>
    rw [List.forall₂_nil_left_iff]
    simp [eq_comm]
  | cons item rest ih =>
    rw [List.mapM_cons, List.forall₂_cons_left_iff]
    simp only [Option.bind_eq_bind, Option.bind_eq_some_iff, Option.pure_def, Option.some.injEq]
    constructor
    · rintro ⟨value, hitem, values, hrest, rfl⟩
      exact ⟨value, values, hitem, ih.mp hrest, rfl⟩
    · rintro ⟨value, values, hitem, hrest, rfl⟩
      exact ⟨value, hitem, values, ih.mpr hrest, rfl⟩

/-- Each item is related to a value exactly if all of them are, one for one. -/
theorem exists_forall₂_iff {R : α → β → Prop} {items : List α} :
    (∃ values, List.Forall₂ R items values) ↔ ∀ item ∈ items, ∃ value, R item value := by
  induction items with
  | nil => simp
  | cons item items ih =>
    simp only [List.forall₂_cons_left_iff, List.forall_mem_cons, ← ih]
    constructor
    · rintro ⟨_, value, values, hvalue, hvalues, rfl⟩
      exact ⟨⟨value, hvalue⟩, values, hvalues⟩
    · rintro ⟨⟨value, hvalue⟩, values, hvalues⟩
      exact ⟨_, value, values, hvalue, hvalues, rfl⟩

theorem eq_ok_of_toOption {result : Except ε α} {value : α} (h : result.toOption = some value) :
    result = .ok value := by
  cases result with
  | error _ => cases h
  | ok _ => rw [Option.some.inj h]

/-! ### What a result can be -/

/-- What holds of a result: one thing of a value, and another of a failure. -/
def Ends (value : α → Prop) (failure : ε → Prop) : Except ε α → Prop
  | .ok a => value a
  | .error e => failure e

instance {value : α → Prop} {failure : ε → Prop} [DecidablePred value] [DecidablePred failure]
    (result : Except ε α) : Decidable (Ends value failure result) :=
  match result with
  | .ok a => inferInstanceAs (Decidable (value a))
  | .error e => inferInstanceAs (Decidable (failure e))

namespace Ends

variable {holds : α → Prop} {holds' : β → Prop} {failure : ε → Prop} {result : Except ε α}

theorem bind {next : α → Except ε β} (h : Ends holds failure result)
    (hnext : ∀ a, holds a → Ends holds' failure (next a)) :
    Ends holds' failure (result >>= next) := by
  cases result with
  | ok a => exact hnext a h
  | error e => exact h

theorem map {f : α → β} (h : Ends holds failure result) (hf : ∀ a, holds a → holds' (f a)) :
    Ends holds' failure (result.map f) := by
  cases result with
  | ok a => exact hf a h
  | error e => exact h

theorem mapError {failure' : δ → Prop} {f : ε → δ} (h : Ends holds failure result)
    (hf : ∀ e, failure e → failure' (f e)) : Ends holds failure' (result.mapError f) := by
  cases result with
  | ok a => exact h
  | error e => exact hf e h

theorem foldlM {f : α → β → Except ε α} {items : List β} {a : α} (ha : holds a)
    (h : ∀ a, ∀ item ∈ items, holds a → Ends holds failure (f a item)) :
    Ends holds failure (items.foldlM f a) := by
  induction items generalizing a with
  | nil => exact ha
  | cons item items ih =>
    rw [List.foldlM_cons]
    exact bind (h a item (.head _) ha) fun a' ha' =>
      ih ha' fun b other hother => h b other (.tail _ hother)

theorem mapM {f : β → Except ε α} {items : List β}
    (h : ∀ item ∈ items, Ends holds failure (f item)) :
    Ends (fun values => ∀ value ∈ values, holds value) failure (items.mapM f) := by
  induction items with
  | nil => exact fun value hvalue => nomatch hvalue
  | cons item items ih =>
    obtain ⟨hitem, hitems⟩ := List.forall_mem_cons.mp h
    rw [List.mapM_cons]
    exact bind hitem fun value hvalue => bind (ih hitems) fun values hvalues =>
      List.forall_mem_cons.mpr ⟨hvalue, hvalues⟩

end Ends

end Stimulus
