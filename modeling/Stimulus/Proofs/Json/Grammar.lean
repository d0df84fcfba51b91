import Mathlib.Data.List.Forall2
import Stimulus.Proofs.Json.Literal
import Stimulus.Proofs.Keyed
import Stimulus.Proofs.Result

/-! The grammar of JSON texts.  A tree is a value as it is written: the members of an object stand in
the order of the text, repeated names included, and numbers are kept with their digits.
`Tree.WrittenAs` says which texts write a tree, blanks around values and names included; it puts no
bound on depth and size.  `Tree.read` is what becomes of a tree when only so many levels may nest and
numbers have to be in range. -/

namespace Stimulus.Json

/-! ### Strings -/

def Blank (text : List Char) : Prop :=
  ∀ c ∈ text, c = ' ' ∨ c = '\t' ∨ c = '\n' ∨ c = '\r'

/-- The letters that stand behind a backslash, each with its character. -/
def shortEscapes : List (Char × Char) :=
  [('"', '"'), ('\\', '\\'), ('/', '/'), ('b', '\x08'), ('f', '\x0c'), ('n', '\n'), ('r', '\r'),
    ('t', '\t')]

/-- A number of 16 bits as four hexadecimal digits behind a backslash and the letter `u`. -/
inductive UnitText : Nat → List Char → Prop
  | digits {a b c d : Char} {n : Nat} (value : Decimal.value? 16 [a, b, c, d] = some n) :
      UnitText n ['\\', 'u', a, b, c, d]

/-- The ways to write a character of a string: as it is, by a letter, by its number, or by the two
surrogates of a number above 16 bits.  A surrogate alone writes no character. -/
inductive CharText : Char → List Char → Prop
  | plain {c : Char} (visible : 0x20 ≤ c.toNat) (quote : c ≠ '"') (backslash : c ≠ '\\') :
      CharText c [c]
  | short {letter c : Char} (known : (letter, c) ∈ shortEscapes) : CharText c ['\\', letter]
  | single {n : Nat} {text : List Char} (unit : UnitText n text) (whole : n < 0xD800 ∨ 0xE000 ≤ n) :
      CharText (Char.ofNat n) text
  | pair {high low : Nat} {front back : List Char} (first : UnitText high front)
      (second : UnitText low back) (upper : 0xD800 ≤ high ∧ high < 0xDC00)
      (lower : 0xDC00 ≤ low ∧ low < 0xE000) :
      CharText (Char.ofNat (0x10000 + (high - 0xD800) * 0x400 + (low - 0xDC00))) (front ++ back)

inductive CharsText : List Char → List Char → Prop
  | nil : CharsText [] []
  | cons {c : Char} {chars piece text : List Char} (first : CharText c piece)
      (rest : CharsText chars text) : CharsText (c :: chars) (piece ++ text)

/-- A character that can stand in a string as it is. -/
def isPlain (c : Char) : Bool :=
  0x20 ≤ c.toNat && c != '"' && c != '\\'

theorem CharsText.self {chars : List Char} (h : chars.all isPlain = true) :
    CharsText chars chars := by
  induction chars with
  | nil => exact .nil
  | cons c chars ih =>
    rw [List.all_cons, Bool.and_eq_true] at h
    obtain ⟨hfirst, hrest⟩ := h
    simp only [isPlain, Bool.and_eq_true, decide_eq_true_iff, bne_iff_ne] at hfirst
    obtain ⟨⟨hvisible, hquote⟩, hbackslash⟩ := hfirst
    exact .cons (.plain hvisible hquote hbackslash) (ih hrest)

/-! ### Trees -/

/-- A value as it is written. -/
inductive Tree where
  | null
  | boolean (value : Bool)
  | number (literal : Literal)
  | string (value : String)
  | array (items : List Tree)
  | object (members : List (String × Tree))

namespace Tree

/-- A member of an object in a text: what stands before its colon, and what stands behind. -/
structure Member where
  name : String
  label : List Char
  value : Tree
  text : List Char

/-- The texts of a tree.  The items of an array and the members of an object have commas between
them, a name is written as a string is, and blanks may stand around every value and every name. -/
inductive WrittenAs : Tree → List Char → Prop
  | nullWord : WrittenAs .null ['n', 'u', 'l', 'l']
  | trueWord : WrittenAs (.boolean true) ['t', 'r', 'u', 'e']
  | falseWord : WrittenAs (.boolean false) ['f', 'a', 'l', 's', 'e']
  | number {literal : Literal} (proper : literal.Proper) : WrittenAs (.number literal) literal.text
  | string {value : String} {text : List Char} (chars : CharsText value.toList text) :
      WrittenAs (.string value) ('"' :: (text ++ ['"']))
  | emptyArray {blank : List Char} (hblank : Blank blank) :
      WrittenAs (.array []) ('[' :: (blank ++ [']']))
  | array {items : List (Tree × List Char)} (nonempty : items ≠ [])
      (inside : ∀ item ∈ items, WrittenAs item.1 item.2) :
      WrittenAs (.array (items.map (·.1)))
        ('[' :: ([','].intercalate (items.map (·.2)) ++ [']']))
  | emptyObject {blank : List Char} (hblank : Blank blank) :
      WrittenAs (.object []) ('{' :: (blank ++ ['}']))
  | object {members : List Member} (nonempty : members ≠ [])
      (labels : ∀ member ∈ members, WrittenAs (.string member.name) member.label)
      (inside : ∀ member ∈ members, WrittenAs member.value member.text) :
      WrittenAs (.object (members.map fun member => (member.name, member.value)))
        ('{' :: ([','].intercalate
          (members.map fun member => member.label ++ ':' :: member.text) ++ ['}']))
  | padded {tree : Tree} {before text after : List Char} (hbefore : Blank before)
      (hafter : Blank after) (written : WrittenAs tree text) :
      WrittenAs tree (before ++ (text ++ after))

theorem writtenAs_string {value : String} (h : value.toList.all isPlain = true) :
    WrittenAs (.string value) ('"' :: (value.toList ++ ['"'])) :=
  .string (.self h)

/-- At most `depth` levels of arrays and objects nest, and every number is in range. -/
inductive Fits : Nat → Tree → Prop
  | null {depth : Nat} : Fits depth .null
  | boolean {depth : Nat} (value : Bool) : Fits depth (.boolean value)
  | number {depth : Nat} {literal : Literal} (inRange : literal.InRange) :
      Fits depth (.number literal)
  | string {depth : Nat} (value : String) : Fits depth (.string value)
  | array {depth : Nat} {items : List Tree} (inside : ∀ item ∈ items, Fits depth item) :
      Fits (depth + 1) (.array items)
  | object {depth : Nat} {members : List (String × Tree)}
      (inside : ∀ member ∈ members, Fits depth member.2) : Fits (depth + 1) (.object members)

/-- The last value that an object has under a name. -/
def last? (name : String) (members : List (String × Tree)) : Option Tree :=
  members.reverse.lookup name

mutual

/-- The value of a tree in which at most `depth` levels nest, or the first fault in the order of the
text.  Of members with one name the last one stands. -/
def read : Nat → Tree → Except Fault Json
  | _, .null => .ok .null
  | _, .boolean value => .ok (.boolean value)
  | _, .number literal => literal.value.map .number
  | _, .string value => .ok (.string value)
  | 0, .array _ => .error .tooDeep
  | 0, .object _ => .error .tooDeep
  | depth + 1, .array items => (readItems depth items).map .array
  | depth + 1, .object members => (readMembers depth members).map ofMembers

def readItems (depth : Nat) : List Tree → Except Fault (List Json)
  | [] => .ok []
  | item :: items => do
    let first ← read depth item
    let rest ← readItems depth items
    return first :: rest

def readMembers (depth : Nat) : List (String × Tree) → Except Fault (List (String × Json))
  | [] => .ok []
  | (name, value) :: members => do
    let first ← read depth value
    let rest ← readMembers depth members
    return (name, first) :: rest

end

/-! ### What fits -/

section

variable {depth : Nat}

theorem readItems_eq_mapM (items : List Tree) :
    readItems depth items = items.mapM (read depth) := by
  induction items with
  | nil => rfl
  | cons item items ih => rw [readItems, List.mapM_cons, ih]

theorem readMembers_eq_mapM (members : List (String × Tree)) :
    readMembers depth members =
      members.mapM fun member => (member.2.read depth).map fun value => (member.1, value) := by
  induction members with
  | nil => rfl
  | cons member members ih =>
    rw [readMembers, List.mapM_cons, ih]
    cases member.2.read depth <;> rfl

theorem readItems_eq_ok_iff {items : List Tree} {values : List Json} :
    readItems depth items = .ok values ↔
      List.Forall₂ (fun item value => item.read depth = .ok value) items values := by
  rw [readItems_eq_mapM, mapM_eq_ok_iff]

theorem readMembers_eq_ok_iff {members : List (String × Tree)} {values : List (String × Json)} :
    readMembers depth members = .ok values ↔
      List.Forall₂ (fun member value => member.1 = value.1 ∧ member.2.read depth = .ok value.2)
        members values := by
  have hread {member : String × Tree} {value : String × Json} :
      (member.2.read depth).map (fun read => (member.1, read)) = .ok value ↔
        member.1 = value.1 ∧ member.2.read depth = .ok value.2 := by
    rw [map_eq_ok_iff]
    constructor
    · rintro ⟨read, hread, rfl⟩
      exact ⟨rfl, hread⟩
    · rintro ⟨hname, hread⟩
      exact ⟨value.2, hread, by rw [hname]⟩
  rw [readMembers_eq_mapM, mapM_eq_ok_iff]
  simp only [hread]

theorem Fits.exists_read {tree : Tree} (h : tree.Fits depth) :
    ∃ value, tree.read depth = .ok value := by
  induction h with
  | null => exact ⟨_, rfl⟩
  | boolean value => exact ⟨_, rfl⟩
  | number inRange =>
    obtain ⟨n, hn⟩ := Literal.exists_value_iff.mpr inRange
    exact ⟨_, map_eq_ok_iff.mpr ⟨n, hn, rfl⟩⟩
  | string value => exact ⟨_, rfl⟩
  | array inside ih =>
    obtain ⟨values, hvalues⟩ := exists_forall₂_iff.mpr ih
    exact ⟨_, map_eq_ok_iff.mpr ⟨values, readItems_eq_ok_iff.mpr hvalues, rfl⟩⟩
  | @object depth members inside ih =>
    have hmembers : ∀ member ∈ members, ∃ value : String × Json,
        member.1 = value.1 ∧ member.2.read depth = .ok value.2 := by
      intro member hmember
      obtain ⟨value, hvalue⟩ := ih member hmember
      exact ⟨(member.1, value), rfl, hvalue⟩
    obtain ⟨values, hvalues⟩ := exists_forall₂_iff.mpr hmembers
    exact ⟨_, map_eq_ok_iff.mpr ⟨values, readMembers_eq_ok_iff.mpr hvalues, rfl⟩⟩

mutual

theorem fits_of_read : ∀ {depth : Nat} {tree : Tree} {value : Json},
    tree.read depth = .ok value → tree.Fits depth
  | _, .null, _, _ => .null
  | _, .boolean value, _, _ => .boolean value
  | _, .number _, _, h => by
    obtain ⟨n, hn, -⟩ := map_eq_ok_iff.mp h
    exact .number (Literal.exists_value_iff.mp ⟨n, hn⟩)
  | _, .string value, _, _ => .string value
  | 0, .array _, _, h => nomatch h
  | 0, .object _, _, h => nomatch h
  | _ + 1, .array _, _, h => by
    obtain ⟨values, hvalues, -⟩ := map_eq_ok_iff.mp h
    exact .array (fits_of_readItems hvalues)
  | _ + 1, .object _, _, h => by
    obtain ⟨values, hvalues, -⟩ := map_eq_ok_iff.mp h
    exact .object (fits_of_readMembers hvalues)

theorem fits_of_readItems : ∀ {depth : Nat} {items : List Tree} {values : List Json},
    readItems depth items = .ok values → ∀ item ∈ items, item.Fits depth
  | _, [], _, _ => nofun
  | _, _ :: _, _, h => by
    obtain ⟨first, hfirst, h⟩ := bind_eq_ok_iff.mp h
    obtain ⟨rest, hrest, -⟩ := bind_eq_ok_iff.mp h
    exact List.forall_mem_cons.mpr ⟨fits_of_read hfirst, fits_of_readItems hrest⟩

theorem fits_of_readMembers : ∀ {depth : Nat} {members : List (String × Tree)}
    {values : List (String × Json)},
    readMembers depth members = .ok values → ∀ member ∈ members, member.2.Fits depth
  | _, [], _, _ => nofun
  | _, (_, _) :: _, _, h => by
    obtain ⟨first, hfirst, h⟩ := bind_eq_ok_iff.mp h
    obtain ⟨rest, hrest, -⟩ := bind_eq_ok_iff.mp h
    exact List.forall_mem_cons.mpr ⟨fits_of_read hfirst, fits_of_readMembers hrest⟩

end

/-- What a tree can be that is read, and what is read of it. -/
inductive ReadCases : Nat → Tree → Json → Prop
  | null {depth : Nat} : ReadCases depth .null .null
  | boolean {depth : Nat} (value : Bool) : ReadCases depth (.boolean value) (.boolean value)
  | number {depth : Nat} {literal : Literal} {n : Number} (value : literal.value = .ok n) :
      ReadCases depth (.number literal) (.number n)
  | string {depth : Nat} (value : String) : ReadCases depth (.string value) (.string value)
  | array {depth : Nat} {items : List Tree} {values : List Json}
      (inside : readItems depth items = .ok values) :
      ReadCases (depth + 1) (.array items) (.array values)
  | object {depth : Nat} {members : List (String × Tree)} {values : List (String × Json)}
      (inside : readMembers depth members = .ok values) :
      ReadCases (depth + 1) (.object members) (.object (Keyed.ofList values))

theorem read_cases {tree : Tree} {value : Json} (h : tree.read depth = .ok value) :
    ReadCases depth tree value := by
  cases tree with
  | null =>
    cases h
    exact .null
  | boolean value =>
    cases h
    exact .boolean value
  | number literal =>
    obtain ⟨n, hn, rfl⟩ := map_eq_ok_iff.mp h
    exact .number hn
  | string value =>
    cases h
    exact .string value
  | array items =>
    cases depth with
    | zero => cases h
    | succ depth =>
      obtain ⟨values, hvalues, rfl⟩ := map_eq_ok_iff.mp h
      exact .array hvalues
  | object members =>
    cases depth with
    | zero => cases h
    | succ depth =>
      obtain ⟨values, hvalues, rfl⟩ := map_eq_ok_iff.mp h
      exact .object hvalues

/-- What is read under a name of an object is the value of the last member of that name. -/
theorem rel_last? {members : List (String × Tree)} {values : List (String × Json)}
    (h : readMembers depth members = .ok values) (name : String) :
    Option.Rel (fun tree value => tree.read depth = .ok value) (last? name members)
      (Keyed.get? name (Keyed.ofList values)) := by
  have hpairs := List.rel_reverse (readMembers_eq_ok_iff.mp h)
  rw [Keyed.get?_ofList, List.findSomeRev?_eq_findSome?_reverse, last?]
  generalize members.reverse = members at hpairs
  generalize values.reverse = values at hpairs
  induction hpairs with
  | nil => exact .none
  | @cons member value members values hpair _ ih =>
    obtain ⟨label, tree⟩ := member
    obtain ⟨rfl, hread⟩ := hpair
    rw [List.lookup_cons, List.findSome?_cons]
    by_cases hname : name = value.1
    · rw [beq_iff_eq.mpr hname, if_pos hname]
      exact .some hread
    · rw [beq_eq_false_iff_ne.mpr hname, if_neg hname]
      exact ih

end

end Tree

end Stimulus.Json
