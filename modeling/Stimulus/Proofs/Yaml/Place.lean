import Stimulus.Yaml.Decode

/-! Places show in messages only.  What is read from a tree, and whether it is read at all, is the
same wherever the tree stands, so an entry of a table is the one that its tree holds on its own. -/

namespace Stimulus

/-! ### Agreement -/

namespace Decode

variable {α β κ σ δ : Type} {first second : Except Error α}

/-- Two readings give the same value or fail both, each with an error of its own. -/
def Agree (first second : Except Error α) : Prop :=
  first.toOption = second.toOption

namespace Agree

theorem refl (result : Except Error α) : Agree result result := rfl

theorem fail {place place' : Place} {cause cause' : Cause} :
    Agree (Decode.fail place cause : Except Error α) (Decode.fail place' cause') := rfl

theorem bind {next next' : α → Except Error β} (h : Agree first second)
    (hnext : ∀ value, Agree (next value) (next' value)) :
    Agree (first >>= next) (second >>= next') := by
  cases first with
  | error _ =>
    cases second with
    | error _ => rfl
    | ok _ => cases h
  | ok value =>
    cases second with
    | error _ => cases h
    | ok value' =>
      obtain rfl := Option.some.inj h
      exact hnext value

theorem eq_ok {value : α} (h : Agree first second) (hfirst : first = .ok value) :
    second = .ok value := by
  rw [hfirst] at h
  cases second with
  | error _ => cases h
  | ok _ => rw [Option.some.inj h]

/-- Readings that give the same values agree. -/
theorem of_iff (h : ∀ value, first = .ok value ↔ second = .ok value) : Agree first second := by
  cases first with
  | ok value => rw [(h value).mp rfl, Agree]
  | error _ =>
    cases second with
    | error _ => rfl
    | ok value => cases (h value).mpr rfl

end Agree

theorem readFields_agree {keys keys' : Keys κ} {place place' : Place} {known : List String}
    {has : δ → String → Bool} {add : δ → String → Place → σ → Except Error δ}
    (hname : ∀ key, Agree (keys.name key) (keys'.name key))
    (hadd : ∀ draft name place place' value,
      Agree (add draft name place value) (add draft name place' value))
    (draft : δ) (fields : List (κ × σ)) :
    Agree (readFields keys place known has add draft fields)
      (readFields keys' place' known has add draft fields) := by
  induction fields generalizing draft with
  | nil =>
    rw [readFields, readFields]
    exact .refl _
  | cons field fields ih =>
    rw [readFields, readFields]
    refine .bind (hname field.1) fun name => ?_
    split
    · exact .fail
    · split
      · exact .fail
      · exact .bind (hadd draft name _ _ field.2) ih

end Decode

open Decode (Agree Place)

/-! ### Trees -/

namespace Yaml.Tree

variable {α : Type} {expected : String}

theorem refuse_agree (place place' : Place) (tree : Tree) :
    Agree (refuse place tree expected : Except Decode.Error α) (refuse place' tree expected) :=
  .fail

theorem readText_agree (place place' : Place) (tree : Tree) :
    Agree (readText expected place tree) (readText expected place' tree) := by
  cases tree with
  | scalar _ text _ => exact .refl _
  | sequence _ _ | mapping _ _ | broken => exact .fail

theorem isPresent_agree (place place' : Place) (tree : Tree) :
    Agree (isPresent place tree) (isPresent place' tree) := by
  unfold isPresent
  split
  · split
    · exact .refl _
    · split
      · split
        · exact .refl _
        · exact .fail
      · exact .refl _
  · exact .fail
  · exact .refl _

theorem readOptional_agree {read : Place → Tree → Except Decode.Error α}
    (hread : ∀ place place' tree, Agree (read place tree) (read place' tree))
    (place place' : Place) (tree : Tree) :
    Agree (readOptional read place tree) (readOptional read place' tree) := by
  unfold readOptional
  refine .bind (isPresent_agree place place' tree) fun present => ?_
  split
  · exact .bind (hread place place' tree) fun value => .refl _
  · exact .refl _

theorem readNothing_agree (place place' : Place) (tree : Tree) :
    Agree (readNothing place tree) (readNothing place' tree) := by
  unfold readNothing
  split
  · split
    · exact .refl _
    · exact .fail
  · exact refuse_agree place place' _

theorem readVariant_agree (place place' : Place) (known : List String) (tree : Tree) :
    Agree (readVariant place known tree) (readVariant place' known tree) := by
  unfold readVariant
  split
  · dsimp only
    split
    · exact .bind (readNothing_agree place place' _) fun value => .refl _
    · exact .fail
  · split
    · exact .refl _
    · exact .fail
  · exact refuse_agree place place' _

mutual

theorem toJson_agree (place place' : Place) :
    (tree : Tree) → Agree (toJson place tree) (toJson place' tree)
  | .broken => .fail
  | .scalar tag text style => by
    rw [toJson, toJson]
    split
    · exact .fail
    · split
      · exact .refl _
      · exact .fail
  | .sequence tag items => by
    rw [toJson, toJson]
    split
    · exact .fail
    · exact .bind (itemsJson_agree place place' 0 items) fun values => .refl _
  | .mapping tag entries => by
    rw [toJson, toJson]
    split
    · exact .fail
    · exact .bind (entriesJson_agree place place' _ entries) fun members => .refl _

theorem itemsJson_agree (place place' : Place) (index : Nat) :
    (items : List Tree) → Agree (itemsJson place index items) (itemsJson place' index items)
  | [] => .refl _
  | item :: rest => by
    rw [itemsJson, itemsJson]
    refine .bind (toJson_agree _ _ item) fun value => ?_
    exact .bind (itemsJson_agree place place' (index + 1) rest) fun values => .refl _

theorem entriesJson_agree (place place' : Place) (expected : String) :
    (entries : List (Tree × Option String × Tree)) →
      Agree (entriesJson place expected entries) (entriesJson place' expected entries)
  | [] => .refl _
  | (key, label, value) :: rest => by
    rw [entriesJson, entriesJson]
    refine .bind (readText_agree place place' key) fun name => ?_
    refine .bind (toJson_agree _ _ value) fun value => ?_
    exact .bind (entriesJson_agree place place' _ rest) fun members => .refl _

end

theorem readEntries_agree (place place' : Place) (tree : Tree) :
    Agree (tree.readEntries expected place) (tree.readEntries expected place') := by
  unfold readEntries
  split
  · exact .refl _
  · exact refuse_agree place place' tree

end Yaml.Tree

/-! ### Entries -/

namespace Descriptor

open Yaml (Tree)

theorem Draft.add_agree (draft : Draft) (name : String) (place place' : Place) (value : Tree) :
    Agree (draft.add Tree.source name place value) (draft.add Tree.source name place' value) := by
  unfold Draft.add
  split
  · exact .bind (Tree.readOptional_agree Tree.readText_agree _ _ value) fun _ => .refl _
  · exact .bind (Tree.readVariant_agree _ _ _ value) fun _ => .refl _
  · exact .bind (Tree.readText_agree _ _ value) fun _ => .refl _
  · exact .bind (Tree.readVariant_agree _ _ _ value) fun _ => .refl _
  · exact .bind (Tree.readOptional_agree Tree.toJson_agree _ _ value) fun _ => .refl _
  · exact .bind (Tree.readOptional_agree Tree.readText_agree _ _ value) fun _ => .refl _
  · exact .refl _

theorem Draft.finish_agree (draft : Draft) (place place' : Place) :
    Agree (draft.finish place) (draft.finish place') := by
  unfold Draft.finish
  split
  · exact .fail
  · exact .fail
  · exact .refl _

/-- An entry is read alike at all places. -/
theorem ofTree_agree (place place' : Place) (tree : Tree) :
    Agree (ofTree place tree) (ofTree place' tree) := by
  refine .bind (Tree.readEntries_agree place place' tree) fun fields => ?_
  refine .bind ?_ fun draft => draft.finish_agree place place'
  exact Decode.readFields_agree (fun key => Tree.readText_agree place place' key.1)
    Draft.add_agree .empty fields

end Descriptor

end Stimulus
