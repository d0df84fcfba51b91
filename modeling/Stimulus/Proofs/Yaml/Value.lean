import Stimulus.Proofs.Yaml.Payload

/-! Values of trees.  `Denotes` relates a tree to the one JSON value that it stands for, if it has
no local tags and its keys are scalars: numbers that are not finite stand for null, and those of more
than 64 bits and a part at which the reader stopped for no value.  The JSON form of a tree is exactly
what it denotes, and a tree of what JSON can hold denotes a value. -/

namespace Stimulus.Yaml

namespace Atom

/-- The value that a scalar stands for; a number that is not finite stands for null, and one of more
than 64 bits has no value. -/
inductive Denotes : Atom → Json → Prop
  | common {atom : Atom} {json : Json} (means : atom.Means json) : Denotes atom json
  | finite (value : Decimal.Binary64) : Denotes (.real (.finite value)) (.number (.float value))
  | infinite (negative : Bool) : Denotes (.real (.infinite negative)) .null
  | notANumber : Denotes (.real .notANumber) .null

/-- A scalar that a JSON value can hold. -/
def isJson : Atom → Bool
  | real (.finite _) => true
  | atom => atom.isCommon

theorem exists_denotes {atom : Atom} (h : atom.isJson = true) : ∃ json, atom.Denotes json := by
  unfold isJson at h
  split at h
  · exact ⟨_, .finite _⟩
  · obtain ⟨json, means⟩ := exists_means h
    exact ⟨json, .common means⟩

theorem ofScalar_null (text : String) (style : Style) :
    ofScalar (some (typeTag "null")) text style =
      if isNull text then .ok .null else .error (refuse text "null") := by
  have hbool : typeTag "null" ≠ typeTag "bool" := by decide
  have hint : typeTag "null" ≠ typeTag "int" := by decide
  have hfloat : typeTag "null" ≠ typeTag "float" := by decide
  rw [ofScalar]
  simp only [if_neg hbool, if_neg hint, if_neg hfloat, if_true]
  split <;> rename_i h <;> split at h <;> simp_all

end Atom

namespace Tree

variable {tree : Tree}

/-! ### JSON forms -/

theorem atomJson_eq_ok_iff {atom : Atom} {json : Json} :
    atomJson atom = .ok json ↔ atom.Denotes json := by
  constructor
  · intro h
    cases atom with
    | wide _ => cases h
    | null =>
      cases h
      exact .common .null
    | boolean value =>
      cases h
      exact .common (.boolean value)
    | integer value =>
      cases h
      exact .common (.integer value)
    | text value =>
      cases h
      exact .common (.text value)
    | real value =>
      cases value with
      | finite value =>
        cases h
        exact .finite value
      | infinite negative =>
        cases h
        exact .infinite negative
      | notANumber =>
        cases h
        exact .notANumber
  · intro h
    cases h with
    | common means => exact means.atomJson_eq
    | finite _ | infinite _ | notANumber => rfl

/-- The JSON value that a tree stands for. -/
inductive Denotes : Tree → Json → Prop
  | scalar {tag : Option String} {text : String} {style : Style} {atom : Atom} {json : Json}
      (untagged : tag.any Atom.isLocalTag = false)
      (value : Atom.ofScalar tag text style = .ok atom) (denotes : atom.Denotes json) :
      Denotes (.scalar tag text style) json
  | sequence {tag : Option String} {items : List Tree} {values : List Json}
      (untagged : tag.any Atom.isLocalTag = false) (inside : List.Forall₂ Denotes items values) :
      Denotes (.sequence tag items) (.array values)
  | mapping {tag : Option String} {entries : List (Tree × Option String × Tree)}
      {members : List (String × Json)} (untagged : tag.any Atom.isLocalTag = false)
      (names : entries.map (·.1.scalarText?) = members.map (some ·.1))
      (inside : List.Forall₂ Denotes (entries.map (·.2.2)) (members.map (·.2))) :
      Denotes (.mapping tag entries) (Json.ofMembers members)

mutual

/-- The JSON form of a tree is the value that it denotes, and a tree that denotes none has none. -/
theorem toJson_eq_ok_iff (place : Decode.Place) :
    (tree : Tree) → {json : Json} → (toJson place tree = .ok json ↔ tree.Denotes json)
  | .broken, json => by
    rw [toJson]
    exact ⟨nofun, nofun⟩
  | .scalar tag text style, json => by
    rw [toJson]
    cases htag : tag.any Atom.isLocalTag with
    | true =>
      refine ⟨nofun, fun h => ?_⟩
      cases h with
      | scalar untagged => simp [htag] at untagged
    | false =>
      constructor
      · intro h
        simp only [Bool.false_eq_true, if_false] at h
        split at h
        · rename_i value hvalue
          obtain rfl := Except.ok.inj h
          obtain ⟨atom, hatom, hvalue⟩ := bind_eq_ok_iff.mp hvalue
          exact .scalar htag hatom (atomJson_eq_ok_iff.mp hvalue)
        · cases h
      · intro h
        cases h with
        | scalar _ value denotes =>
          simp [value, Except.bind, atomJson_eq_ok_iff.mpr denotes]
  | .sequence tag items, json => by
    rw [toJson]
    cases htag : tag.any Atom.isLocalTag with
    | true =>
      refine ⟨nofun, fun h => ?_⟩
      cases h with
      | sequence untagged => simp [htag] at untagged
    | false =>
      constructor
      · intro h
        obtain ⟨values, hvalues, h⟩ := bind_eq_ok_iff.mp h
        cases h
        exact .sequence htag ((itemsJson_eq_ok_iff place 0 items).mp hvalues)
      · intro h
        cases h with
        | sequence _ inside =>
          exact bind_eq_ok_iff.mpr ⟨_, (itemsJson_eq_ok_iff place 0 items).mpr inside, rfl⟩
  | .mapping tag entries, json => by
    rw [toJson]
    cases htag : tag.any Atom.isLocalTag with
    | true =>
      refine ⟨nofun, fun h => ?_⟩
      cases h with
      | mapping untagged => simp [htag] at untagged
    | false =>
      constructor
      · intro h
        obtain ⟨members, hmembers, h⟩ := bind_eq_ok_iff.mp h
        cases h
        obtain ⟨names, inside⟩ := (entriesJson_eq_ok_iff place _ entries).mp hmembers
        exact .mapping htag names inside
      · intro h
        cases h with
        | mapping _ names inside =>
          have hmembers := (entriesJson_eq_ok_iff place "a string key" entries).mpr ⟨names, inside⟩
          exact bind_eq_ok_iff.mpr ⟨_, hmembers, rfl⟩

theorem itemsJson_eq_ok_iff (place : Decode.Place) (index : Nat) :
    (items : List Tree) → {values : List Json} →
      (itemsJson place index items = .ok values ↔ List.Forall₂ Denotes items values)
  | [], values => by
    rw [itemsJson, List.forall₂_nil_left_iff, Except.ok.injEq, eq_comm]
  | item :: items, values => by
    rw [itemsJson, List.forall₂_cons_left_iff, bind_eq_ok_iff]
    constructor
    · rintro ⟨value, hitem, h⟩
      obtain ⟨rest, hrest, h⟩ := bind_eq_ok_iff.mp h
      cases h
      exact ⟨value, rest, (toJson_eq_ok_iff _ item).mp hitem,
        (itemsJson_eq_ok_iff place (index + 1) items).mp hrest, rfl⟩
    · rintro ⟨value, rest, hitem, hrest, rfl⟩
      refine ⟨value, (toJson_eq_ok_iff _ item).mpr hitem, bind_eq_ok_iff.mpr ⟨rest, ?_, rfl⟩⟩
      exact (itemsJson_eq_ok_iff place (index + 1) items).mpr hrest

theorem entriesJson_eq_ok_iff (place : Decode.Place) (expected : String) :
    (entries : List (Tree × Option String × Tree)) → {members : List (String × Json)} →
      (entriesJson place expected entries = .ok members ↔
        entries.map (·.1.scalarText?) = members.map (some ·.1) ∧
          List.Forall₂ Denotes (entries.map (·.2.2)) (members.map (·.2)))
  | [], members => by
    rw [entriesJson, Except.ok.injEq]
    cases members <;> simp
  | (key, label, tree) :: entries, members => by
    rw [entriesJson, bind_eq_ok_iff]
    constructor
    · rintro ⟨name, hname, h⟩
      obtain ⟨value, hvalue, h⟩ := bind_eq_ok_iff.mp h
      obtain ⟨rest, hrest, h⟩ := bind_eq_ok_iff.mp h
      cases h
      obtain ⟨hnames, hinside⟩ := (entriesJson_eq_ok_iff place _ entries).mp hrest
      refine ⟨?_, .cons ((toJson_eq_ok_iff _ tree).mp hvalue) hinside⟩
      rw [List.map_cons, List.map_cons, hnames, readText_eq_ok_iff.mp hname]
    · intro h
      obtain ⟨hnames, hinside⟩ := h
      cases members with
      | nil => cases hnames
      | cons member members =>
        obtain ⟨hname, hnames⟩ := List.cons.inj hnames
        obtain ⟨hvalue, hinside⟩ := List.forall₂_cons.mp hinside
        refine ⟨member.1, readText_eq_ok_iff.mpr hname, bind_eq_ok_iff.mpr ⟨member.2, ?_, ?_⟩⟩
        · exact (toJson_eq_ok_iff _ tree).mpr hvalue
        · have hrest := (entriesJson_eq_ok_iff place "a string" entries).mpr ⟨hnames, hinside⟩
          exact bind_eq_ok_iff.mpr ⟨members, hrest, rfl⟩

end

mutual

/-- A tree of mappings with scalar keys, sequences and scalars that a JSON value can hold, without
local tags and without a part at which the reader stopped. -/
def isJson : Tree → Bool
  | .broken => false
  | .scalar tag text style =>
    !tag.any Atom.isLocalTag && (Atom.ofScalar tag text style).toOption.any Atom.isJson
  | .sequence tag items => !tag.any Atom.isLocalTag && areJson items
  | .mapping tag entries => !tag.any Atom.isLocalTag && entriesAreJson entries

def areJson : List Tree → Bool
  | [] => true
  | item :: items => isJson item && areJson items

def entriesAreJson : List (Tree × Option String × Tree) → Bool
  | [] => true
  | (key, _, value) :: entries =>
    key.scalarText?.isSome && isJson value && entriesAreJson entries

end

mutual

theorem exists_denotes : (tree : Tree) → tree.isJson = true → ∃ json, tree.Denotes json
  | .broken, h => by
    cases h
  | .scalar tag text style, h => by
    simp only [isJson, Bool.and_eq_true, Bool.not_eq_true', Option.any_eq_true] at h
    obtain ⟨htag, atom, hatom, hjson⟩ := h
    obtain ⟨json, hdenotes⟩ := Atom.exists_denotes hjson
    exact ⟨json, .scalar htag (eq_ok_of_toOption hatom) hdenotes⟩
  | .sequence tag items, h => by
    simp only [isJson, Bool.and_eq_true, Bool.not_eq_true'] at h
    obtain ⟨values, hvalues⟩ := exists_forall₂_denotes items h.2
    exact ⟨_, .sequence h.1 hvalues⟩
  | .mapping tag entries, h => by
    simp only [isJson, Bool.and_eq_true, Bool.not_eq_true'] at h
    obtain ⟨members, hnames, hvalues⟩ := exists_members_denoted entries h.2
    exact ⟨_, .mapping h.1 hnames hvalues⟩

theorem exists_forall₂_denotes : (items : List Tree) → areJson items = true →
    ∃ values, List.Forall₂ Denotes items values
  | [], _ => ⟨[], .nil⟩
  | item :: items, h => by
    obtain ⟨hitem, hitems⟩ := Bool.and_eq_true_iff.mp h
    obtain ⟨value, hvalue⟩ := exists_denotes item hitem
    obtain ⟨values, hvalues⟩ := exists_forall₂_denotes items hitems
    exact ⟨value :: values, .cons hvalue hvalues⟩

theorem exists_members_denoted : (entries : List (Tree × Option String × Tree)) →
    entriesAreJson entries = true → ∃ members : List (String × Json),
      entries.map (·.1.scalarText?) = members.map (some ·.1) ∧
        List.Forall₂ Denotes (entries.map (·.2.2)) (members.map (·.2))
  | [], _ => ⟨[], rfl, .nil⟩
  | (key, label, value) :: entries, h => by
    simp only [entriesAreJson, Bool.and_eq_true] at h
    obtain ⟨⟨hkey, hvalue⟩, hentries⟩ := h
    obtain ⟨name, hname⟩ := Option.isSome_iff_exists.mp hkey
    obtain ⟨json, hjson⟩ := exists_denotes value hvalue
    obtain ⟨members, hnames, hvalues⟩ := exists_members_denoted entries hentries
    exact ⟨(name, json) :: members, congrArg₂ List.cons hname hnames, .cons hjson hvalues⟩

end

/-! ### Scalars -/

/-- A scalar without a tag that is not null. -/
def isWord : Tree → Bool
  | .scalar none text .plain => !(text.isEmpty || Atom.isNull text)
  | .scalar none _ _ => true
  | _ => false

/-- A plain scalar that is null, by its form or by its tag. -/
def isNull : Tree → Bool
  | .scalar none text .plain => text.isEmpty || Atom.isNull text
  | .scalar (some tag) text .plain => tag = Atom.typeTag "null" && Atom.isNull text
  | _ => false

theorem isPresent_of_isWord (h : tree.isWord = true) (place : Decode.Place) :
    isPresent place tree = .ok true := by
  cases tree with
  | sequence _ _ | mapping _ _ | broken => cases h
  | scalar tag text style =>
    cases tag with
    | some _ => cases h
    | none =>
      cases style with
      | quoted | block => rfl
      | plain =>
        rw [isWord] at h
        rw [isPresent, h]

theorem exists_text_of_isWord (h : tree.isWord = true) : ∃ text, tree.scalarText? = some text := by
  cases tree with
  | sequence _ _ | mapping _ _ | broken => cases h
  | scalar _ text _ => exact ⟨text, rfl⟩

theorem string?_eq_ok_iff (h : tree.isWord = true) {place : Decode.Place} {found : Option String} :
    source.string? place tree = .ok found ↔ tree.scalarText? = found := by
  obtain ⟨text, htext⟩ := exists_text_of_isWord h
  have hread : readText "a string" place tree = .ok text := readText_eq_ok_iff.mpr htext
  have hfound : source.string? place tree = .ok (some text) := by
    simp only [source, readOptional, isPresent_of_isWord h, hread]
    rfl
  rw [hfound, htext, Except.ok.injEq]

theorem variant_eq_ok_iff (h : tree.isWord = true) {place : Decode.Place} {known : List String}
    {name : String} :
    source.variant place known tree = .ok name ↔ tree.scalarText? = some name ∧ name ∈ known := by
  cases tree with
  | sequence _ _ | mapping _ _ | broken => cases h
  | scalar tag text style =>
    cases tag with
    | some _ => cases h
    | none =>
      have hread : readVariant place known (.scalar none text style) =
          if known.contains text then .ok text
          else Decode.fail place (.unknownVariant text known) := rfl
      simp only [source, hread, scalarText?, Option.some.injEq]
      by_cases hknown : text ∈ known
      · simp only [List.contains_iff_mem.mpr hknown, if_true, Except.ok.injEq]
        exact ⟨fun heq => ⟨heq, heq ▸ hknown⟩, fun h => h.1⟩
      · have hcontains : known.contains text = false := by simpa using hknown
        simp only [hcontains, Bool.false_eq_true, if_false]
        refine ⟨fun heq => ?_, fun h => absurd (h.1 ▸ h.2) hknown⟩
        cases heq

/-! ### Payloads -/

theorem isPresent_of_denotes {json : Json} (h : tree.Denotes json) (place : Decode.Place) :
    isPresent place tree = .ok (!tree.isNull) := by
  cases h with
  | sequence _ _ | mapping _ _ _ => rfl
  | @scalar tag text style atom json untagged value denotes =>
    cases style with
    | quoted | block => cases tag <;> rfl
    | plain =>
      cases tag with
      | none => rfl
      | some tag =>
        by_cases htag : tag = Atom.typeTag "null"
        · subst htag
          by_cases hnull : Atom.isNull text = true
          · simp [isPresent, isNull, hnull]
          · simp [Atom.ofScalar_null, hnull] at value
        · simp [isPresent, isNull, htag]

theorem isNull_of_isPresent {place : Decode.Place} (h : isPresent place tree = .ok false) :
    tree.isNull = true := by
  cases tree with
  | sequence _ _ | mapping _ _ | broken => cases h
  | scalar tag text style =>
    cases style with
    | quoted | block => cases h
    | plain =>
      cases tag with
      | none => simpa [isPresent, isNull, or_iff_not_imp_left] using h
      | some tag =>
        by_cases htag : tag = Atom.typeTag "null"
        · by_cases hnull : Atom.isNull text = true
          · simp [isNull, htag, hnull]
          · simp [isPresent, htag, hnull, Decode.fail] at h
        · simp [isPresent, htag] at h

theorem denotes_null (h : tree.isNull = true) : tree.Denotes .null := by
  cases tree with
  | sequence _ _ | mapping _ _ | broken => cases h
  | scalar tag text style =>
    cases style with
    | quoted | block => cases tag <;> cases h
    | plain =>
      cases tag with
      | none =>
        have hatom : Atom.ofScalar none text .plain = .ok .null := by
          have hplain : Atom.ofPlain text = .null := if_pos h
          rw [Atom.ofScalar, if_pos rfl, hplain]
        exact .scalar rfl hatom (.common .null)
      | some tag =>
        simp only [isNull, Bool.and_eq_true, decide_eq_true_eq] at h
        obtain ⟨rfl, hnull⟩ := h
        have hatom : Atom.ofScalar (some (Atom.typeTag "null")) text .plain = .ok .null := by
          rw [Atom.ofScalar_null, if_pos hnull]
        exact .scalar (by decide +kernel) hatom (.common .null)

/-- A payload is read as the value that its tree denotes; one that is null is left out. -/
theorem value?_eq_ok_iff {place : Decode.Place} {found : Option Json} :
    source.value? place tree = .ok found ↔
      ∃ json, tree.Denotes json ∧ found = if tree.isNull then none else some json := by
  constructor
  · intro h
    obtain ⟨present, hpresent, h⟩ := bind_eq_ok_iff.mp h
    cases present with
    | false =>
      have hnull := isNull_of_isPresent hpresent
      cases h
      exact ⟨.null, denotes_null hnull, by rw [if_pos hnull]⟩
    | true =>
      obtain ⟨json, hjson, h⟩ := bind_eq_ok_iff.mp h
      cases h
      have hdenotes := (toJson_eq_ok_iff place tree).mp hjson
      have hnull : tree.isNull = false := by
        rw [isPresent_of_denotes hdenotes] at hpresent
        simpa using hpresent
      exact ⟨json, hdenotes, by simp [hnull]⟩
  · rintro ⟨json, hdenotes, rfl⟩
    have hjson := (toJson_eq_ok_iff place tree).mpr hdenotes
    simp only [source, readOptional, isPresent_of_denotes hdenotes, hjson]
    cases tree.isNull <;> rfl

end Tree

end Stimulus.Yaml
