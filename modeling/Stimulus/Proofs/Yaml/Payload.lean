import Stimulus.Proofs.Json.RoundTrip
import Stimulus.Yaml.Decode

/-! Payloads.  A tree of mappings, sequences and those scalars that JSON has too is a payload, and
`Means` relates it to the values that hold the same: the same members of every mapping in any order,
the same items of every sequence in theirs, and the same scalars.  The JSON form of a payload is
such a value, and one that its text gives back. -/

namespace Stimulus.Yaml

namespace Atom

/-- A scalar that JSON has too. -/
def isCommon : Atom → Bool
  | null | boolean _ | integer _ | text _ => true
  | wide _ | real _ => false

/-- The value is the scalar. -/
inductive Means : Atom → Json → Prop
  | null : Means .null .null
  | boolean (value : Bool) : Means (.boolean value) (.boolean value)
  | integer (value : Int) : Means (.integer value) (.number (.integer value))
  | text (value : String) : Means (.text value) (.string value)

theorem exists_means {atom : Atom} (h : atom.isCommon = true) : ∃ json, Means atom json := by
  cases atom with
  | null => exact ⟨_, .null⟩
  | boolean value => exact ⟨_, .boolean value⟩
  | integer value => exact ⟨_, .integer value⟩
  | text value => exact ⟨_, .text value⟩
  | wide _ | real _ => cases h

theorem Means.atomJson_eq {atom : Atom} {json : Json} (h : Means atom json) :
    Tree.atomJson atom = .ok json := by
  cases h <;> rfl

theorem bounds_of_ofPlain {text : String} {value : Int} (h : ofPlain text = .integer value) :
    -0x8000000000000000 ≤ value ∧ value ≤ 0xFFFFFFFFFFFFFFFF := by
  have hwhole {found : Int} (h : ofWhole? found = some (.integer value)) :
      -0x8000000000000000 ≤ value ∧ value ≤ 0xFFFFFFFFFFFFFFFF := by
    unfold ofWhole? at h
    split at h
    · cases h
      assumption
    · split at h <;> cases h
  unfold ofPlain at h
  split at h
  · cases h
  · split at h
    · cases h
    · split at h
      · rename_i hinteger
        subst h
        obtain ⟨found, -, hfound⟩ := Option.bind_eq_some_iff.mp hinteger
        exact hwhole hfound
      · split at h
        · cases h
        · split at h <;> cases h

theorem Means.portable {text : String} {style : Style} {atom : Atom} {json : Json} {depth : Nat}
    (h : Means atom json) (hvalue : ofScalar none text style = .ok atom) :
    json.Portable depth := by
  cases h with
  | null => exact .null
  | boolean value => exact .boolean value
  | text value => exact .string value
  | integer value =>
    have hatom : (if style = .plain then ofPlain text else .text text) = .integer value :=
      Except.ok.inj hvalue
    split at hatom
    · obtain ⟨hlower, hupper⟩ := bounds_of_ofPlain hatom
      exact .integer hlower hupper
    · cases hatom

end Atom

namespace Tree

/-- The text of a scalar. -/
def scalarText? : Tree → Option String
  | .scalar _ text _ => some text
  | _ => none

/-- The texts of the keys of a mapping, if all of them are scalars. -/
def keyTexts? (entries : List (Tree × Option String × Tree)) : Option (List String) :=
  entries.mapM fun entry => entry.1.scalarText?

/-- A tree without tags that consists of mappings, sequences and scalars that JSON has too, in which
at most `depth` levels nest.  Keys are scalars, and no two of a mapping have the same text. -/
def isPayload : Nat → Tree → Bool
  | _, .scalar none text style => (Atom.ofScalar none text style).toOption.any Atom.isCommon
  | depth + 1, .sequence none items => items.all (isPayload depth)
  | depth + 1, .mapping none entries =>
    (keyTexts? entries).any (fun names => names.Nodup) &&
      entries.all fun entry => isPayload depth entry.2.2
  | _, _ => false

/-- A scalar that is nothing. -/
def isNothing : Tree → Bool
  | .scalar none text style =>
    match Atom.ofScalar none text style with
    | .ok .null => true
    | _ => false
  | _ => false

/-- The value holds what the tree does. -/
inductive Means : Tree → Json → Prop
  | scalar {text : String} {style : Style} {atom : Atom} {json : Json}
      (value : Atom.ofScalar none text style = .ok atom) (means : atom.Means json) :
      Means (.scalar none text style) json
  | sequence {items : List Tree} {values : List Json} (inside : List.Forall₂ Means items values) :
      Means (.sequence none items) (.array values)
  | mapping {entries : List (Tree × Option String × Tree)} {names : List String}
      {values : List Json} {members : List (String × Json)}
      (keys : keyTexts? entries = some names)
      (inside : List.Forall₂ Means (entries.map (·.2.2)) values)
      (members_perm : members.Perm (names.zip values)) :
      Means (.mapping none entries) (.object members)

variable {place : Decode.Place} {P : Tree → Json → Prop}

theorem itemsJson_eq {items : List Tree}
    (h : ∀ item ∈ items, ∀ place, ∃ value, toJson place item = .ok value ∧ P item value)
    (index : Nat) :
    ∃ values, itemsJson place index items = .ok values ∧ List.Forall₂ P items values := by
  induction items generalizing index with
  | nil => exact ⟨[], by rw [itemsJson], .nil⟩
  | cons item items ih =>
    obtain ⟨value, hvalue, hmeans⟩ := h item (.head _) (.item place index)
    obtain ⟨values, hvalues, hrest⟩ := ih (fun item hitem => h item (.tail _ hitem)) (index + 1)
    refine ⟨value :: values, ?_, .cons hmeans hrest⟩
    rw [itemsJson, hvalue, hvalues]
    rfl

theorem readText_eq_ok_iff {tree : Tree} {text expected : String} :
    readText expected place tree = .ok text ↔ tree.scalarText? = some text := by
  cases tree with
  | scalar _ _ _ => simp [readText, scalarText?]
  | sequence _ _ | mapping _ _ | broken => simp [readText, scalarText?, refuse, Decode.fail]

theorem entriesJson_eq {entries : List (Tree × Option String × Tree)} {names : List String}
    (hkeys : keyTexts? entries = some names)
    (h : ∀ entry ∈ entries, ∀ place, ∃ value,
      toJson place entry.2.2 = .ok value ∧ P entry.2.2 value) (expected : String) :
    ∃ values, entriesJson place expected entries = .ok (names.zip values) ∧
      names.length = values.length ∧ List.Forall₂ P (entries.map (·.2.2)) values := by
  induction entries generalizing names expected with
  | nil =>
    cases hkeys
    exact ⟨[], by rw [entriesJson]; rfl, rfl, .nil⟩
  | cons entry entries ih =>
    obtain ⟨key, label, tree⟩ := entry
    rw [keyTexts?, List.mapM_cons] at hkeys
    obtain ⟨name, hname, hkeys⟩ := Option.bind_eq_some_iff.mp hkeys
    obtain ⟨names, hnames, hkeys⟩ := Option.bind_eq_some_iff.mp hkeys
    cases hkeys
    obtain ⟨value, hvalue, hfirst⟩ := h (key, label, tree) (.head _) (.member place label)
    obtain ⟨values, hvalues, hlength, hrest⟩ :=
      ih hnames (fun entry hentry => h entry (.tail _ hentry)) "a string"
    refine ⟨value :: values, ?_, by simp [hlength], .cons hfirst hrest⟩
    rw [entriesJson, readText_eq_ok_iff.mpr hname, hvalue, hvalues]
    rfl

theorem portable_of_mem {depth : Nat} {trees : List Tree} {values : List Json} {value : Json}
    (h : List.Forall₂ (fun tree value => Means tree value ∧ value.Portable depth) trees values)
    (hvalue : value ∈ values) : value.Portable depth := by
  induction h with
  | nil => cases hvalue
  | cons hfirst _ ih =>
    rcases List.mem_cons.mp hvalue with rfl | hvalue
    · exact hfirst.2
    · exact ih hvalue

theorem toJson_scalar_eq {depth : Nat} {tag : Option String} {text : String} {style : Style}
    (h : isPayload depth (.scalar tag text style) = true) (place : Decode.Place) :
    ∃ json, toJson place (.scalar tag text style) = .ok json ∧
      Means (.scalar tag text style) json ∧ json.Portable depth := by
  cases tag with
  | some _ => simp [isPayload] at h
  | none =>
    rw [isPayload, Option.any_eq_true] at h
    obtain ⟨atom, hatom, hcommon⟩ := h
    have hvalue := eq_ok_of_toOption hatom
    obtain ⟨json, hmeans⟩ := Atom.exists_means hcommon
    refine ⟨json, ?_, .scalar hvalue hmeans, hmeans.portable hvalue⟩
    rw [toJson, if_neg (by simp), hvalue, Except.bind, hmeans.atomJson_eq]

/-- The JSON form of a payload. -/
theorem toJson_eq {depth : Nat} {tree : Tree} (h : tree.isPayload depth = true)
    (place : Decode.Place) :
    ∃ json, toJson place tree = .ok json ∧ Means tree json ∧ json.Portable depth := by
  induction depth generalizing tree place with
  | zero =>
    cases tree with
    | scalar _ _ _ => exact toJson_scalar_eq h place
    | sequence _ _ | mapping _ _ | broken => simp [isPayload] at h
  | succ depth ih =>
    cases tree with
    | broken => simp [isPayload] at h
    | scalar _ _ _ => exact toJson_scalar_eq h place
    | sequence tag items =>
      cases tag with
      | some _ => cases h
      | none =>
        rw [isPayload, List.all_eq_true] at h
        obtain ⟨values, hvalues, hinside⟩ := itemsJson_eq (fun item hitem => ih (h item hitem)) 0
        have hmeans := hinside.imp fun _ _ h => h.1
        refine ⟨.array values, ?_, .sequence hmeans, .array fun value => portable_of_mem hinside⟩
        rw [toJson, if_neg (by simp), hvalues]
        rfl
    | mapping tag entries =>
      cases tag with
      | some _ => cases h
      | none =>
        rw [isPayload, Bool.and_eq_true, Option.any_eq_true, List.all_eq_true] at h
        obtain ⟨⟨names, hkeys, hdistinct⟩, h⟩ := h
        obtain ⟨values, hvalues, hlength, hinside⟩ := entriesJson_eq
          (P := fun tree value => Means tree value ∧ value.Portable depth) hkeys
          (fun entry hentry => ih (h entry hentry)) "a string key"
        have hmeans := hinside.imp fun _ _ h => h.1
        -- No member is lost when the members are put in order, since the names are distinct.
        have hdistinct : ((names.zip values).map (·.1)).Nodup := by
          rw [List.map_fst_zip (Nat.le_of_eq hlength)]
          exact of_decide_eq_true hdistinct
        have hperm := Keyed.perm_ofList hdistinct
        refine ⟨Json.ofMembers (names.zip values), ?_, .mapping hkeys hmeans hperm,
          .object (Keyed.sorted_ofList _) fun member hmember => ?_⟩
        · rw [toJson, if_neg (by simp), hvalues]
          rfl
        · exact portable_of_mem hinside (List.of_mem_zip (hperm.mem_iff.mp hmember)).2

theorem isPresent_eq {depth : Nat} {tree : Tree} (h : tree.isPayload depth = true)
    (hnothing : tree.isNothing = false) (place : Decode.Place) :
    isPresent place tree = .ok true := by
  cases tree with
  | broken => cases depth <;> simp [isPayload] at h
  | sequence _ _ | mapping _ _ => rfl
  | scalar tag text style =>
    cases tag with
    | some _ => cases depth <;> cases h
    | none =>
      cases style with
      | quoted | block => rfl
      | plain =>
        have htext : (text.isEmpty || Atom.isNull text) = false := by
          by_contra hnull
          rw [Bool.not_eq_false] at hnull
          have hatom : Atom.ofPlain text = .null := if_pos hnull
          rw [isNothing, Atom.ofScalar, if_pos rfl, hatom] at hnothing
          cases hnothing
        rw [isPresent, htext]
        rfl

/-- A payload is read as its JSON form. -/
theorem value?_eq {depth : Nat} {tree : Tree} (h : tree.isPayload depth = true)
    (hnothing : tree.isNothing = false) (place : Decode.Place) :
    ∃ json, source.value? place tree = .ok (some json) ∧ Means tree json ∧
      json.Portable depth := by
  obtain ⟨json, hjson, hmeans, hportable⟩ := toJson_eq h place
  refine ⟨json, ?_, hmeans, hportable⟩
  simp only [source, readOptional, isPresent_eq h hnothing, hjson]
  rfl

end Tree

end Stimulus.Yaml
