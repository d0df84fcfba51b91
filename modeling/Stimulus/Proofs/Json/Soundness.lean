import Stimulus.Proofs.Json.Completeness

/-! Whatever is read was written by the grammar.  The reader takes a text of a tree from the front,
and its value is that of the tree; with the other direction, the texts that are read are exactly
those of trees that fit. -/

namespace Stimulus.Json

variable {chars digits rest text : List Char} {depth fuel : Nat}

/-! ### Strings -/

theorem exists_of_prepend {c : Char} {read : Option (List Char × List Char)}
    (h : (do let (tail, rest) ← read; some (c :: tail, rest)) = some (chars, rest)) :
    ∃ tail, read = some (tail, rest) ∧ chars = c :: tail := by
  cases read with
  | none => cases h
  | some read =>
    cases h
    exact ⟨_, rfl, rfl⟩

theorem exists_charsText_of_readString (h : readString text = some (chars, rest)) :
    ∃ spelled, CharsText chars spelled ∧ text = spelled ++ '"' :: rest := by
  fun_induction readString text generalizing chars rest with
  | case1 => cases h
  | case2 _ =>
    cases h
    exact ⟨[], .nil, rfl⟩
  | case3 a b c d behind ihpair ihsingle =>
    obtain ⟨n, hn, h⟩ := Option.bind_eq_some_iff.mp h
    split at h
    · rename_i hhigh
      split at h
      · obtain ⟨low, hlow, h⟩ := Option.bind_eq_some_iff.mp h
        split at h
        · rename_i hlower
          obtain ⟨tail, htail, rfl⟩ := exists_of_prepend h
          obtain ⟨spelled, hspelled, rfl⟩ := ihpair htail
          have hpair := CharText.pair (.digits hn) (.digits hlow)
            (isHighSurrogate_iff.mp hhigh) (isLowSurrogate_iff.mp hlower)
          exact ⟨_, .cons hpair hspelled, rfl⟩
        · cases h
      · cases h
    · rename_i hhigh
      split at h
      · cases h
      · rename_i hlow
        obtain ⟨tail, htail, rfl⟩ := exists_of_prepend h
        obtain ⟨spelled, hspelled, rfl⟩ := ihsingle htail
        rw [isHighSurrogate_iff] at hhigh
        rw [isLowSurrogate_iff] at hlow
        have hsingle := CharText.single (.digits hn) (by omega)
        exact ⟨_, .cons hsingle hspelled, rfl⟩
  | case4 letter behind _ ih =>
    obtain ⟨c, hc, h⟩ := Option.bind_eq_some_iff.mp h
    obtain ⟨tail, htail, rfl⟩ := exists_of_prepend h
    obtain ⟨spelled, hspelled, rfl⟩ := ih htail
    exact ⟨_, .cons (.short (unescape?_eq_some_iff.mp hc)) hspelled, rfl⟩
  | case5 => cases h
  | case6 c behind hquote _ _ hplain ih =>
    obtain ⟨tail, htail, rfl⟩ := exists_of_prepend h
    obtain ⟨spelled, hspelled, rfl⟩ := ih htail
    obtain ⟨hbackslash, hvisible⟩ := not_or.mp hplain
    exact ⟨_, .cons (.plain (by omega) hquote hbackslash) hspelled, rfl⟩

/-! ### Numbers -/

theorem digits_of_spanDigits (h : Decimal.spanDigits text = (digits, rest)) :
    text = digits ++ rest ∧ ∀ c ∈ digits, c.isDigit = true := by
  rw [Decimal.spanDigits, List.span_eq_takeWhile_dropWhile] at h
  cases h
  exact ⟨List.takeWhile_append_dropWhile.symm, fun c hc => List.mem_takeWhile_imp hc⟩

theorem exists_fraction_of_readFraction {fraction : Option (List Char)}
    (h : readFraction text = .ok (fraction, rest)) :
    text = Literal.fractionText fraction ++ rest ∧ ∀ digits ∈ fraction, Digits digits := by
  unfold readFraction at h
  split at h
  · split at h
    · cases h
    · rename_i hnonempty hspan
      cases h
      obtain ⟨rfl, hdigits⟩ := digits_of_spanDigits hspan
      refine ⟨rfl, ?_⟩
      rintro _ ⟨⟩
      exact ⟨hnonempty, hdigits⟩
  · cases h
    exact ⟨rfl, nofun⟩

theorem exists_digits_of_match {negative : Bool} {value : Option (Bool × Nat)}
    (h : (match Decimal.spanDigits text with
      | ([], _) => Except.error Fault.malformed
      | (digits, rest) => .ok (some (negative, Decimal.value digits), rest)) = .ok (value, rest)) :
    ∃ digits, Digits digits ∧ text = digits ++ rest ∧
      value = some (negative, Decimal.value digits) := by
  split at h
  · cases h
  · rename_i hnonempty hspan
    cases h
    obtain ⟨rfl, hdigits⟩ := digits_of_spanDigits hspan
    exact ⟨_, ⟨hnonempty, hdigits⟩, rfl, rfl⟩

theorem exists_exponent_of_readExponent {value : Option (Bool × Nat)}
    (h : readExponent text = .ok (value, rest)) :
    ∃ exponent : Option Exponent, exponent.map Exponent.value = value ∧
      text = Literal.exponentText exponent ++ rest ∧ ∀ e ∈ exponent, e.Proper := by
  have hmissing (text : List Char) : ∃ exponent : Option Exponent,
      exponent.map Exponent.value = none ∧
        text = Literal.exponentText exponent ++ text ∧ ∀ e ∈ exponent, e.Proper :=
    ⟨none, rfl, rfl, nofun⟩
  unfold readExponent at h
  split at h
  · rename_i marker behind
    split at h
    · rename_i hmarker
      have hsigned (sign digits : List Char)
          (hsign : sign = [] ∨ sign = ['+'] ∨ sign = ['-']) (hdigits : Digits digits)
          (hvalue : value = some (sign == ['-'], Decimal.value digits)) :
          ∃ exponent : Option Exponent, exponent.map Exponent.value = value ∧
            marker :: (sign ++ (digits ++ rest)) = Literal.exponentText exponent ++ rest ∧
            ∀ e ∈ exponent, e.Proper := by
        refine ⟨some ⟨marker, sign, digits⟩, hvalue.symm, ?_, ?_⟩
        · simp [Literal.exponentText, Exponent.text]
        · rintro _ ⟨⟩
          exact ⟨hmarker, hsign, hdigits⟩
      split at h
      rename_i heq
      split at heq
      · cases heq
        obtain ⟨digits, hdigits, rfl, hvalue⟩ := exists_digits_of_match h
        exact hsigned ['+'] digits (.inr (.inl rfl)) hdigits hvalue
      · cases heq
        obtain ⟨digits, hdigits, rfl, hvalue⟩ := exists_digits_of_match h
        exact hsigned ['-'] digits (.inr (.inr rfl)) hdigits hvalue
      · cases heq
        obtain ⟨digits, hdigits, rfl, hvalue⟩ := exists_digits_of_match h
        exact hsigned [] digits (.inl rfl) hdigits hvalue
    · cases h
      exact hmissing _
  · cases h
    exact hmissing _

theorem exists_literal_of_readMagnitude {negative : Bool} {n : Number}
    (h : readMagnitude negative text = .ok (n, rest)) :
    ∃ literal : Literal, literal.negative = negative ∧ literal.Proper ∧
      text = literal.whole ++ (Literal.fractionText literal.fraction ++
        (Literal.exponentText literal.exponent ++ rest)) ∧ literal.value = .ok n := by
  rw [readMagnitude] at h
  generalize hspan : Decimal.spanDigits text = span at h
  obtain ⟨whole, tail⟩ := span
  obtain ⟨rfl, hwhole⟩ := digits_of_spanDigits hspan
  clear hspan
  dsimp only at h
  split at h
  · cases h
  · cases h
  · rename_i hnonempty hzero
    obtain ⟨⟨fraction, behind⟩, hfraction, h⟩ := bind_eq_ok_iff.mp h
    obtain ⟨⟨exponent, tail⟩, hexponent, h⟩ := bind_eq_ok_iff.mp h
    obtain ⟨rfl, hfractionProper⟩ := exists_fraction_of_readFraction hfraction
    obtain ⟨exponent, rfl, rfl, hexponentProper⟩ := exists_exponent_of_readExponent hexponent
    clear hfraction hexponent
    have hvalue : Literal.value ⟨negative, whole, fraction, exponent⟩ = .ok n ∧ tail = rest := by
      -- A literal is whole only if both parts are missing.
      cases fraction <;> cases exponent <;>
        simp only [Option.map_none, Option.map_some] at h <;>
        obtain ⟨value, hvalue, h⟩ := bind_eq_ok_iff.mp h <;> cases h <;> exact ⟨hvalue, rfl⟩
    obtain ⟨hvalue, rfl⟩ := hvalue
    have hproper : Literal.Proper ⟨negative, whole, fraction, exponent⟩ :=
      ⟨⟨hnonempty, hwhole⟩, hzero, hfractionProper, hexponentProper⟩
    exact ⟨_, rfl, hproper, rfl, hvalue⟩

theorem exists_literal_of_readNumber {n : Number} (h : readNumber text = .ok (n, rest)) :
    ∃ literal : Literal, literal.Proper ∧ text = literal.text ++ rest ∧ literal.value = .ok n := by
  unfold readNumber at h
  split at h
  · obtain ⟨literal, hnegative, hproper, rfl, hvalue⟩ := exists_literal_of_readMagnitude h
    exact ⟨literal, hproper, by simp [Literal.text, hnegative], hvalue⟩
  · obtain ⟨literal, hnegative, hproper, rfl, hvalue⟩ := exists_literal_of_readMagnitude h
    exact ⟨literal, hproper, by simp [Literal.text, hnegative], hvalue⟩

/-! ### Values -/

theorem Tree.WrittenAs.append_blank {tree : Tree} {blank : List Char} (h : tree.WrittenAs text)
    (hblank : Blank blank) : tree.WrittenAs (text ++ blank) :=
  have hnone : Blank [] := nofun
  .padded hnone hblank h

/-- A tree of this value is written at the front of a text. -/
def ValueFront (depth : Nat) (text : List Char) (value : Json) (rest : List Char) : Prop :=
  ∃ (tree : Tree) (spelled : List Char), tree.WrittenAs spelled ∧ text = spelled ++ rest ∧
    tree.read depth = .ok value

def ItemsFront (depth : Nat) (text : List Char) (values : List Json) (rest : List Char) : Prop :=
  ∃ items : List (Tree × List Char), items ≠ [] ∧ (∀ item ∈ items, item.1.WrittenAs item.2) ∧
    text = [','].intercalate (items.map (·.2)) ++ ']' :: rest ∧
    Tree.readItems depth (items.map (·.1)) = .ok values

def MembersFront (depth : Nat) (text : List Char) (values : List (String × Json))
    (rest : List Char) : Prop :=
  ∃ members : List Tree.Member, members ≠ [] ∧
    (∀ member ∈ members, Tree.WrittenAs (.string member.name) member.label) ∧
    (∀ member ∈ members, member.value.WrittenAs member.text) ∧
    text = [','].intercalate (members.map fun member => member.label ++ ':' :: member.text) ++
      '}' :: rest ∧
    Tree.readMembers depth (members.map fun member => (member.name, member.value)) = .ok values

/-- What the reader takes with an amount of fuel is written by the grammar. -/
structure ReadsTree (fuel : Nat) : Prop where
  value : ∀ {depth text value rest}, readValue fuel depth text = .ok (value, rest) →
    ValueFront depth text value rest
  items : ∀ {depth text values rest}, readItems fuel depth text = .ok (values, rest) →
    ItemsFront depth text values rest
  members : ∀ {depth text values rest}, readMembers fuel depth text = .ok (values, rest) →
    MembersFront depth text values rest

namespace ReadsTree

theorem zero : ReadsTree 0 where
  value h := by simp [readValue] at h
  items h := by simp [readItems] at h
  members h := by simp [readMembers] at h

theorem value_succ (reads : ReadsTree fuel) {value : Json}
    (h : readValue (fuel + 1) depth text = .ok (value, rest)) :
    ValueFront depth text value rest := by
  obtain ⟨before, hbefore, htext⟩ := exists_blank_skipSpace text
  have hpadded {tree : Tree} {spelled : List Char} (hwritten : tree.WrittenAs spelled)
      (hskip : skipSpace text = spelled ++ rest) (hread : tree.read depth = .ok value) :
      ValueFront depth text value rest :=
    ⟨tree, before ++ (spelled ++ []), .padded hbefore nofun hwritten,
      by rw [htext, hskip]; simp, hread⟩
  rw [readValue] at h
  split at h
  · rename_i hskip
    cases h
    exact hpadded .nullWord hskip rfl
  · rename_i hskip
    cases h
    exact hpadded .trueWord hskip rfl
  · rename_i hskip
    cases h
    exact hpadded .falseWord hskip rfl
  · rename_i hskip
    split at h
    · rename_i hstring
      cases h
      obtain ⟨spelled, hspelled, rfl⟩ := exists_charsText_of_readString hstring
      have hwritten := Tree.WrittenAs.string (by rwa [String.toList_ofList])
      exact hpadded hwritten (by rw [hskip]; simp) rfl
    · cases h
  · rename_i inside hskip
    split at h
    · cases h
    · obtain ⟨blank, hblank, hinside⟩ := exists_blank_skipSpace inside
      split at h
      · rename_i hclose
        cases h
        rw [hclose] at hinside
        exact hpadded (.emptyArray hblank) (by rw [hskip, hinside]; simp) rfl
      · obtain ⟨⟨values, behind⟩, hitems, h⟩ := bind_eq_ok_iff.mp h
        cases h
        rw [readItems_skipSpace] at hitems
        obtain ⟨items, hnonempty, hwritten, rfl, hread⟩ := reads.items hitems
        exact hpadded (.array hnonempty hwritten) (by rw [hskip]; simp)
          (map_eq_ok_iff.mpr ⟨values, hread, rfl⟩)
  · rename_i inside hskip
    split at h
    · cases h
    · obtain ⟨blank, hblank, hinside⟩ := exists_blank_skipSpace inside
      split at h
      · rename_i hclose
        cases h
        rw [hclose] at hinside
        exact hpadded (.emptyObject hblank) (by rw [hskip, hinside]; simp) rfl
      · obtain ⟨⟨values, behind⟩, hmembers, h⟩ := bind_eq_ok_iff.mp h
        cases h
        rw [readMembers_skipSpace] at hmembers
        obtain ⟨members, hnonempty, hlabels, hwritten, rfl, hread⟩ := reads.members hmembers
        exact hpadded (.object hnonempty hlabels hwritten) (by rw [hskip]; simp)
          (map_eq_ok_iff.mpr ⟨values, hread, rfl⟩)
  · obtain ⟨⟨n, behind⟩, hnumber, h⟩ := bind_eq_ok_iff.mp h
    cases h
    obtain ⟨literal, hproper, hskip, hvalue⟩ := exists_literal_of_readNumber hnumber
    exact hpadded (.number hproper) hskip (map_eq_ok_iff.mpr ⟨n, hvalue, rfl⟩)

theorem items_succ (reads : ReadsTree fuel) {values : List Json}
    (h : readItems (fuel + 1) depth text = .ok (values, rest)) :
    ItemsFront depth text values rest := by
  rw [readItems] at h
  obtain ⟨⟨value, behind⟩, hvalue, hnext⟩ := bind_eq_ok_iff.mp h
  obtain ⟨tree, spelled, hwritten, rfl, hread⟩ := reads.value hvalue
  obtain ⟨blank, hblank, hbehind⟩ := exists_blank_skipSpace behind
  have hpadded := hwritten.append_blank hblank
  dsimp only at hnext
  split at hnext
  · rename_i hcomma
    obtain ⟨⟨others, behind⟩, hothers, hnext⟩ := bind_eq_ok_iff.mp hnext
    cases hnext
    obtain ⟨items, hnonempty, hitems, rfl, hreads⟩ := reads.items hothers
    obtain ⟨second, items, rfl⟩ := List.exists_cons_of_ne_nil hnonempty
    refine ⟨(tree, _) :: second :: items, List.cons_ne_nil _ _,
      List.forall_mem_cons.mpr ⟨hpadded, hitems⟩,
      ?_, bind_eq_ok_iff.mpr ⟨value, hread, bind_eq_ok_iff.mpr ⟨others, hreads, rfl⟩⟩⟩
    rw [hbehind, hcomma]
    simp [List.intercalate_cons_cons]
  · rename_i hclose
    cases hnext
    refine ⟨[(tree, _)], List.cons_ne_nil _ _, List.forall_mem_singleton.mpr hpadded, ?_,
      bind_eq_ok_iff.mpr ⟨value, hread, rfl⟩⟩
    rw [hbehind, hclose]
    simp
  · cases hnext

theorem members_succ (reads : ReadsTree fuel) {values : List (String × Json)}
    (h : readMembers (fuel + 1) depth text = .ok (values, rest)) :
    MembersFront depth text values rest := by
  obtain ⟨front, hfront, htext⟩ := exists_blank_skipSpace text
  rw [readMembers] at h
  split at h
  · rename_i hquote
    split at h
    · cases h
    · rename_i name afterName hstring
      obtain ⟨spelled, hspelled, rfl⟩ := exists_charsText_of_readString hstring
      obtain ⟨blank, hblank, hafterName⟩ := exists_blank_skipSpace afterName
      have hlabel : Tree.WrittenAs (.string (String.ofList name))
          (front ++ ('"' :: (spelled ++ ['"']) ++ blank)) :=
        .padded hfront hblank (.string (by rwa [String.toList_ofList]))
      split at h
      · rename_i hcolon
        obtain ⟨⟨value, behind⟩, hvalue, hnext⟩ := bind_eq_ok_iff.mp h
        obtain ⟨tree, piece, hwritten, rfl, hread⟩ := reads.value hvalue
        obtain ⟨blank, hblank, hbehind⟩ := exists_blank_skipSpace behind
        have hpadded := hwritten.append_blank hblank
        dsimp only at hnext
        split at hnext
        · rename_i hcomma
          obtain ⟨⟨others, behind⟩, hothers, hnext⟩ := bind_eq_ok_iff.mp hnext
          cases hnext
          obtain ⟨members, hnonempty, hlabels, hmembers, rfl, hreads⟩ := reads.members hothers
          obtain ⟨second, members, rfl⟩ := List.exists_cons_of_ne_nil hnonempty
          refine ⟨⟨_, _, _, _⟩ :: second :: members, List.cons_ne_nil _ _,
            List.forall_mem_cons.mpr ⟨hlabel, hlabels⟩,
            List.forall_mem_cons.mpr ⟨hpadded, hmembers⟩, ?_,
            bind_eq_ok_iff.mpr ⟨value, hread, bind_eq_ok_iff.mpr ⟨others, hreads, rfl⟩⟩⟩
          rw [htext, hquote, hafterName, hcolon, hbehind, hcomma]
          simp [List.intercalate_cons_cons]
        · rename_i hclose
          cases hnext
          refine ⟨[⟨_, _, _, _⟩], List.cons_ne_nil _ _, List.forall_mem_singleton.mpr hlabel,
            List.forall_mem_singleton.mpr hpadded, ?_, bind_eq_ok_iff.mpr ⟨value, hread, rfl⟩⟩
          rw [htext, hquote, hafterName, hcolon, hbehind, hclose]
          simp
        · cases hnext
      · cases h
  · cases h

end ReadsTree

theorem readsTree (fuel : Nat) : ReadsTree fuel := by
  induction fuel with
  | zero => exact .zero
  | succ fuel ih => exact ⟨ih.value_succ, ih.items_succ, ih.members_succ⟩

/-- A text that is read writes a tree, and the value is that of the tree. -/
theorem exists_tree_of_parse {text : String} {value : Json} (h : parse text = .ok value) :
    ∃ tree : Tree, tree.WrittenAs text.toList ∧ tree.read greatestDepth = .ok value := by
  rw [parse] at h
  obtain ⟨⟨read, rest⟩, hread, h⟩ := bind_eq_ok_iff.mp h
  dsimp only at h
  split at h
  · rename_i hend
    cases h
    obtain ⟨tree, spelled, hwritten, htext, hvalue⟩ := (readsTree _).value hread
    obtain ⟨blank, hblank, hrest⟩ := exists_blank_skipSpace rest
    rw [List.isEmpty_iff.mp hend] at hrest
    refine ⟨tree, ?_, hvalue⟩
    rw [List.append_nil] at hrest
    rw [htext, hrest]
    exact hwritten.append_blank hblank
  · cases h

/-- The texts that are read are those of the trees that fit. -/
theorem parse_eq_ok_iff {text : String} {value : Json} :
    parse text = .ok value ↔
      ∃ tree : Tree, tree.WrittenAs text.toList ∧ tree.read greatestDepth = .ok value := by
  constructor
  · exact exists_tree_of_parse
  · rintro ⟨tree, hwritten, hread⟩
    rw [hwritten.parse_eq, hread]

end Stimulus.Json
