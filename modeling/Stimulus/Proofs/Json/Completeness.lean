import Mathlib.Data.List.TakeWhile
import Stimulus.Proofs.Json.Grammar
import Stimulus.Proofs.Json.RoundTrip

/-! Texts that write a tree are read.  The reader is followed along the grammar: on the text of a
tree it does what `Tree.read` does with the tree, faults included, and stops at the end of the text
or among the blanks there. -/

namespace Stimulus.Json

variable {before chars digits piece rest text : List Char} {c : Char} {depth fuel : Nat}

/-! ### Blanks -/

theorem isSpace_iff : isSpace c = true ↔ c = ' ' ∨ c = '\t' ∨ c = '\n' ∨ c = '\r' := by
  simp [isSpace, or_assoc]

theorem Blank.append {after : List Char} (hbefore : Blank before) (hafter : Blank after) :
    Blank (before ++ after) := by
  intro c hc
  rcases List.mem_append.mp hc with hc | hc
  · exact hbefore c hc
  · exact hafter c hc

theorem Blank.skipSpace (h : Blank before) (text : List Char) :
    skipSpace (before ++ text) = skipSpace text :=
  List.dropWhile_append_of_pos fun c hc => isSpace_iff.mpr (h c hc)

/-! ### Strings -/

theorem unescape?_eq_some_iff {letter : Char} :
    unescape? letter = some c ↔ (letter, c) ∈ shortEscapes := by
  constructor
  · intro h
    unfold unescape? at h
    split at h <;> cases h <;> simp [shortEscapes]
  · intro h
    simp only [shortEscapes, List.mem_cons, Prod.mk.injEq, List.not_mem_nil, or_false] at h
    rcases h with ⟨rfl, rfl⟩ | ⟨rfl, rfl⟩ | ⟨rfl, rfl⟩ | ⟨rfl, rfl⟩ | ⟨rfl, rfl⟩ | ⟨rfl, rfl⟩ |
      ⟨rfl, rfl⟩ | ⟨rfl, rfl⟩ <;> rfl

theorem isHighSurrogate_iff {n : Nat} : isHighSurrogate n = true ↔ 0xD800 ≤ n ∧ n < 0xDC00 := by
  simp [isHighSurrogate]

theorem isLowSurrogate_iff {n : Nat} : isLowSurrogate n = true ↔ 0xDC00 ≤ n ∧ n < 0xE000 := by
  simp [isLowSurrogate]

theorem readString_charText (h : CharText c piece) (text : List Char) :
    readString (piece ++ text) = (readString text).map (prepend c) := by
  cases h with
  | plain visible quote backslash =>
    exact readString_visible quote backslash (by omega) text
  | short known => exact readString_backslash (unescape?_eq_some_iff.mpr known) text
  | @single n _ unit whole =>
    obtain ⟨hvalue⟩ := unit
    have hhigh : ¬isHighSurrogate n = true := by
      rw [isHighSurrogate_iff]
      omega
    have hlow : ¬isLowSurrogate n = true := by
      rw [isLowSurrogate_iff]
      omega
    simp only [List.cons_append, List.nil_append]
    rw [readString, hex4?, hvalue, Option.bind_eq_bind, Option.bind_some, if_neg hhigh, if_neg hlow]
    cases readString text <;> rfl
  | @pair high low _ _ first second upper lower =>
    obtain ⟨hfirst⟩ := first
    obtain ⟨hsecond⟩ := second
    simp only [List.cons_append, List.nil_append]
    rw [readString, hex4?, hfirst, Option.bind_eq_bind, Option.bind_some,
      if_pos (isHighSurrogate_iff.mpr upper)]
    simp only [hex4?, hsecond, Option.bind_eq_bind, Option.bind_some,
      if_pos (isLowSurrogate_iff.mpr lower)]
    cases readString text <;> rfl

theorem CharsText.readString (h : CharsText chars text) (rest : List Char) :
    readString (text ++ '"' :: rest) = some (chars, rest) := by
  induction h with
  | nil => rfl
  | cons first _ ih =>
    rw [List.append_assoc, readString_charText first, ih]
    rfl

/-! ### Numbers -/

/-- What can stand behind a value: nothing that would go on with a number. -/
def Stops (rest : List Char) : Prop :=
  ∀ c ∈ rest.head?, isSpace c = true ∨ c = ',' ∨ c = ']' ∨ c = '}'

theorem Stops.ne (h : Stops rest) (hc : c ∈ rest.head?) :
    c.isDigit = false ∧ c ≠ '.' ∧ c ≠ 'e' ∧ c ≠ 'E' := by
  rcases h c hc with hspace | rfl | rfl | rfl
  · rcases isSpace_iff.mp hspace with rfl | rfl | rfl | rfl <;> decide
  all_goals decide

theorem Digits.spanDigits (h : Digits digits) (hrest : ∀ c ∈ rest.head?, c.isDigit = false) :
    Decimal.spanDigits (digits ++ rest) = (digits, rest) :=
  Decimal.spanDigits_append h.2 hrest

theorem readFraction_eq {fraction : Option (List Char)} (h : ∀ digits ∈ fraction, Digits digits)
    (hrest : ∀ c ∈ rest.head?, c.isDigit = false ∧ c ≠ '.') :
    readFraction (Literal.fractionText fraction ++ rest) = .ok (fraction, rest) := by
  cases fraction with
  | none =>
    simp only [Literal.fractionText, Option.elim_none, List.nil_append]
    unfold readFraction
    split
    · exact absurd rfl (hrest '.' rfl).2
    · rfl
  | some digits =>
    have hdigits := h digits rfl
    simp only [Literal.fractionText, Option.elim_some, List.cons_append]
    rw [readFraction, hdigits.spanDigits fun c hc => (hrest c hc).1]
    split
    · rename_i heq
      exact absurd (congrArg Prod.fst heq) hdigits.1
    · rename_i heq
      cases heq
      rfl

theorem Digits.exists_cons (h : Digits digits) :
    ∃ c others, digits = c :: others ∧ c.isDigit = true := by
  obtain ⟨c, others, rfl⟩ := List.exists_cons_of_ne_nil h.1
  exact ⟨c, others, rfl, h.2 c (.head _)⟩

theorem readExponent_eq {exponent : Option Exponent} (h : ∀ e ∈ exponent, e.Proper)
    (hrest : Stops rest) :
    readExponent (Literal.exponentText exponent ++ rest) =
      .ok (exponent.map Exponent.value, rest) := by
  cases exponent with
  | none =>
    simp only [Literal.exponentText, Option.elim_none, List.nil_append, Option.map_none]
    unfold readExponent
    split
    · rename_i c _
      obtain ⟨-, -, he, hE⟩ := hrest.ne (c := c) rfl
      rw [if_neg (by simp [he, hE])]
    · rfl
  | some exponent =>
    obtain ⟨hmarker, hsign, hdigits⟩ := h exponent rfl
    have hspan := hdigits.spanDigits fun c hc => (hrest.ne hc).1
    obtain ⟨c, others, hcons, hc⟩ := hdigits.exists_cons
    obtain ⟨marker, sign, digits⟩ := exponent
    dsimp only at hmarker hsign hcons hspan
    subst hcons
    simp only [Literal.exponentText, Option.elim_some, Exponent.text, Exponent.value,
      List.cons_append, Option.map_some]
    unfold readExponent
    simp only [if_pos hmarker]
    rcases hsign with rfl | rfl | rfl
    · have hplus : c ≠ '+' := by
        rintro rfl
        exact absurd hc (by decide)
      have hminus : c ≠ '-' := by
        rintro rfl
        exact absurd hc (by decide)
      simp only [List.nil_append, List.cons_append] at hspan ⊢
      split
      · simp_all
      · simp_all
    · simp only [List.nil_append, List.cons_append] at hspan ⊢
      simp only [hspan]
      rfl
    · simp only [List.nil_append, List.cons_append] at hspan ⊢
      simp only [hspan]
      rfl

/-- Neither an exponent nor what stands behind it goes on with the digits before it. -/
theorem head_exponentText {exponent : Option Exponent} (h : ∀ e ∈ exponent, e.Proper)
    (hrest : Stops rest) :
    ∀ c ∈ (Literal.exponentText exponent ++ rest).head?, c.isDigit = false ∧ c ≠ '.' := by
  intro c hc
  cases exponent with
  | none =>
    obtain ⟨hdigit, hpoint, -, -⟩ := hrest.ne hc
    exact ⟨hdigit, hpoint⟩
  | some exponent =>
    obtain rfl : exponent.marker = c := Option.some.inj hc
    rcases (h exponent rfl).marker with hmarker | hmarker <;> rw [hmarker] <;> decide

theorem head_fractionText (fraction : Option (List Char))
    (hrest : ∀ c ∈ rest.head?, c.isDigit = false ∧ c ≠ '.') :
    ∀ c ∈ (Literal.fractionText fraction ++ rest).head?, c.isDigit = false := by
  intro c hc
  cases fraction with
  | none => exact (hrest c hc).1
  | some digits =>
    obtain rfl : '.' = c := Option.some.inj hc
    decide

theorem bind_pure_pair {ε α β : Type} (result : Except ε α) (b : β) :
    (match result with
      | .error e => .error e
      | .ok a => pure (a, b)) = result.map fun a => (a, b) := by
  cases result <;> rfl

theorem readMagnitude_eq {literal : Literal} (h : literal.Proper) (hrest : Stops rest) :
    readMagnitude literal.negative
        (literal.whole ++ (Literal.fractionText literal.fraction ++
          (Literal.exponentText literal.exponent ++ rest))) =
      literal.value.map fun number => (number, rest) := by
  have hexponent := readExponent_eq h.exponent hrest
  have hbehind := head_exponentText h.exponent hrest
  have hfraction := readFraction_eq h.fraction hbehind
  have hwhole := h.whole.spanDigits (head_fractionText literal.fraction hbehind)
  have hzero := h.noLeadingZero
  obtain ⟨c, others, hcons, -⟩ := h.whole.exists_cons
  obtain ⟨negative, whole, fraction, exponent⟩ := literal
  dsimp only at *
  rw [readMagnitude, hwhole]
  dsimp only
  split
  · cases hcons
  · exact absurd rfl (hzero _ _)
  · simp only [hfraction, hexponent, bind, Except.bind]
    -- A literal is whole only if both parts are missing.
    cases fraction <;> cases exponent <;>
      simp only [Literal.value, Option.map_none, Option.map_some] <;> exact bind_pure_pair _ rest

theorem readNumber_text {literal : Literal} (h : literal.Proper) (hrest : Stops rest) :
    readNumber (literal.text ++ rest) = literal.value.map fun number => (number, rest) := by
  have hmagnitude := readMagnitude_eq h hrest
  obtain ⟨c, others, hcons, hc⟩ := h.whole.exists_cons
  simp only [Literal.text, List.append_assoc]
  cases hnegative : literal.negative with
  | true =>
    rw [hnegative] at hmagnitude
    exact hmagnitude
  | false =>
    rw [hnegative] at hmagnitude
    simp only [Bool.false_eq_true, if_false, List.nil_append]
    unfold readNumber
    split
    · rename_i heq
      rw [hcons, List.cons_append] at heq
      obtain rfl := (List.cons.inj heq).1
      exact absurd hc (by decide)
    · exact hmagnitude

/-! ### Values -/

theorem readValue_blank (h : Blank before) (text : List Char) :
    readValue fuel depth (before ++ text) = readValue fuel depth text := by
  cases fuel with
  | zero => rfl
  | succ fuel => rw [readValue, readValue, h.skipSpace]

theorem exists_blank_skipSpace (text : List Char) :
    ∃ before, Blank before ∧ text = before ++ skipSpace text := by
  refine ⟨text.takeWhile isSpace, fun c hc => ?_, List.takeWhile_append_dropWhile.symm⟩
  exact isSpace_iff.mp (List.mem_takeWhile_imp hc)

theorem readItems_skipSpace (text : List Char) :
    readItems fuel depth (skipSpace text) = readItems fuel depth text := by
  cases fuel with
  | zero => rfl
  | succ fuel =>
    obtain ⟨before, hbefore, htext⟩ := exists_blank_skipSpace text
    have hvalue : readValue fuel depth text = readValue fuel depth (skipSpace text) := by
      rw [htext, readValue_blank hbefore, ← htext]
    rw [readItems, readItems, hvalue]

theorem readMembers_skipSpace (text : List Char) :
    readMembers fuel depth (skipSpace text) = readMembers fuel depth text := by
  cases fuel with
  | zero => rfl
  | succ fuel =>
    obtain ⟨before, hbefore, htext⟩ := exists_blank_skipSpace text
    have hskip : skipSpace (skipSpace text) = skipSpace text := by
      rw [← hbefore.skipSpace, ← htext]
    rw [readMembers, readMembers, hskip]

theorem Literal.Proper.exists_head {literal : Literal} (h : literal.Proper) :
    ∃ c tail, literal.text = c :: tail ∧ (c = '-' ∨ c.isDigit = true) := by
  obtain ⟨c, others, hcons, hc⟩ := h.whole.exists_cons
  rw [Literal.text, hcons]
  cases literal.negative with
  | true => exact ⟨'-', _, rfl, .inl rfl⟩
  | false => exact ⟨c, _, rfl, .inr hc⟩

theorem Tree.WrittenAs.exists_head {tree : Tree} (h : tree.WrittenAs text) :
    ∃ before c tail, Blank before ∧ text = before ++ c :: tail ∧ isSpace c = false ∧ c ≠ ']' := by
  induction h with
  | number proper =>
    obtain ⟨c, tail, hcons, hc⟩ := proper.exists_head
    refine ⟨[], c, tail, nofun, hcons, isSpace_eq_false hc, ?_⟩
    rintro rfl
    exact absurd hc (by decide)
  | padded hbefore hafter _ ih =>
    obtain ⟨inner, c, tail, hinner, rfl, hspace, hclose⟩ := ih
    exact ⟨_, c, _, hbefore.append hinner, by simp only [List.append_assoc]; rfl, hspace, hclose⟩
  | _ => exact ⟨[], _, _, nofun, rfl, rfl, by decide⟩

/-- The text of a name. -/
theorem Tree.WrittenAs.exists_chars {name : String} (h : WrittenAs (.string name) text) :
    ∃ before chars after, Blank before ∧ Blank after ∧ CharsText name.toList chars ∧
      text = before ++ '"' :: (chars ++ '"' :: after) := by
  generalize htree : Tree.string name = tree at h
  induction h with
  | @string value text chars =>
    cases htree
    exact ⟨[], text, [], nofun, nofun, chars, rfl⟩
  | @padded tree before text after hbefore hafter _ ih =>
    obtain ⟨front, chars, back, hfront, hback, hchars, rfl⟩ := ih htree
    exact ⟨before ++ front, chars, back ++ after, hbefore.append hfront, hback.append hafter,
      hchars, by simp only [List.append_assoc, List.cons_append]⟩
  | _ => cases htree

/-- With enough fuel the reader does on the text of a tree what `Tree.read` does with the tree, and
stops at its end or among the blanks there. -/
def ReadAs (tree : Tree) (text : List Char) : Prop :=
  ∀ fuel depth rest, 2 * text.length ≤ fuel → Stops rest → ∃ blank, Blank blank ∧
    readValue fuel depth (text ++ rest) =
      (tree.read depth).map fun value => (value, blank ++ rest)

theorem ReadAs.readItems_last {tree : Tree} {item : List Char} (h : ReadAs tree item)
    (hfuel : 2 * item.length ≤ fuel) :
    readItems (fuel + 1) depth (item ++ ']' :: rest) =
      (Tree.readItems depth [tree]).map fun values => (values, rest) := by
  obtain ⟨blank, hblank, hread⟩ := h fuel depth (']' :: rest) hfuel (by simp [Stops])
  have hskip : skipSpace (blank ++ ']' :: rest) = ']' :: rest := by
    rw [hblank.skipSpace, skipSpace_cons rfl]
  rw [readItems, hread, Tree.readItems]
  cases tree.read depth with
  | error fault => rfl
  | ok value =>
    simp only [Except.map, bind, Except.bind, hskip]
    rfl

theorem ReadAs.readItems_more {tree : Tree} {items : List Tree} {item others : List Char}
    (h : ReadAs tree item) (hfuel : 2 * item.length ≤ fuel)
    (hothers : readItems fuel depth others =
      (Tree.readItems depth items).map fun values => (values, rest)) :
    readItems (fuel + 1) depth (item ++ ',' :: others) =
      (Tree.readItems depth (tree :: items)).map fun values => (values, rest) := by
  obtain ⟨blank, hblank, hread⟩ := h fuel depth (',' :: others) hfuel (by simp [Stops])
  have hskip : skipSpace (blank ++ ',' :: others) = ',' :: others := by
    rw [hblank.skipSpace, skipSpace_cons rfl]
  rw [readItems, hread, Tree.readItems]
  cases tree.read depth with
  | error fault => rfl
  | ok value =>
    simp only [Except.map, bind, Except.bind, hskip, hothers]
    cases Tree.readItems depth items <;> rfl

theorem readItems_intercalate {items : List (Tree × List Char)} (hnonempty : items ≠ [])
    (hreads : ∀ item ∈ items, ReadAs item.1 item.2)
    (hfuel : 2 * ([','].intercalate (items.map (·.2))).length + 1 ≤ fuel) :
    readItems fuel depth ([','].intercalate (items.map (·.2)) ++ ']' :: rest) =
      (Tree.readItems depth (items.map (·.1))).map fun values => (values, rest) := by
  induction items generalizing fuel with
  | nil => exact absurd rfl hnonempty
  | cons first items ih =>
    have hfirst := hreads first (.head _)
    obtain ⟨fuel, rfl⟩ : ∃ less, fuel = less + 1 := ⟨fuel - 1, by omega⟩
    cases items with
    | nil =>
      simp only [List.map_cons, List.map_nil, List.intercalate_singleton] at hfuel ⊢
      exact hfirst.readItems_last (by omega)
    | cons second items =>
      have hothers := @ih fuel (List.cons_ne_nil second items)
        (fun item hitem => hreads item (.tail _ hitem))
      simp only [List.map_cons, List.intercalate_cons_cons, List.append_assoc, List.length_append,
        List.length_singleton] at hfuel hothers ⊢
      exact hfirst.readItems_more (by omega) (hothers (by omega))

theorem readMembers_label {name : String} {label text : List Char}
    {result : Except Fault (List (String × Json) × List Char)}
    (h : Tree.WrittenAs (.string name) label)
    (hbehind : (do
      let (value, rest) ← readValue fuel depth text
      match skipSpace rest with
      | ',' :: rest =>
        let (members, rest) ← readMembers fuel depth rest
        return ((name, value) :: members, rest)
      | '}' :: rest => return ([(name, value)], rest)
      | _ => .error .malformed) = result) :
    readMembers (fuel + 1) depth (label ++ ':' :: text) = result := by
  obtain ⟨before, chars, after, hbefore, hafter, hchars, rfl⟩ := h.exists_chars
  have hname := hchars.readString (after ++ ':' :: text)
  simp only [List.append_assoc, List.cons_append]
  rw [readMembers, hbefore.skipSpace, skipSpace_cons rfl]
  simp only [hname, hafter.skipSpace, skipSpace_cons (c := ':') rfl, String.ofList_toList]
  exact hbehind

theorem ReadAs.readMembers_last {tree : Tree} {name : String} {label text : List Char}
    (h : ReadAs tree text) (hlabel : Tree.WrittenAs (.string name) label)
    (hfuel : 2 * text.length ≤ fuel) :
    readMembers (fuel + 1) depth (label ++ ':' :: (text ++ '}' :: rest)) =
      (Tree.readMembers depth [(name, tree)]).map fun values => (values, rest) := by
  obtain ⟨blank, hblank, hread⟩ := h fuel depth ('}' :: rest) hfuel (by simp [Stops])
  have hskip : skipSpace (blank ++ '}' :: rest) = '}' :: rest := by
    rw [hblank.skipSpace, skipSpace_cons rfl]
  refine readMembers_label hlabel ?_
  rw [hread, Tree.readMembers]
  cases tree.read depth with
  | error fault => rfl
  | ok value =>
    simp only [Except.map, bind, Except.bind, hskip]
    rfl

theorem ReadAs.readMembers_more {tree : Tree} {name : String} {label text others : List Char}
    {members : List (String × Tree)} (h : ReadAs tree text)
    (hlabel : Tree.WrittenAs (.string name) label) (hfuel : 2 * text.length ≤ fuel)
    (hothers : readMembers fuel depth others =
      (Tree.readMembers depth members).map fun values => (values, rest)) :
    readMembers (fuel + 1) depth (label ++ ':' :: (text ++ ',' :: others)) =
      (Tree.readMembers depth ((name, tree) :: members)).map fun values => (values, rest) := by
  obtain ⟨blank, hblank, hread⟩ := h fuel depth (',' :: others) hfuel (by simp [Stops])
  have hskip : skipSpace (blank ++ ',' :: others) = ',' :: others := by
    rw [hblank.skipSpace, skipSpace_cons rfl]
  refine readMembers_label hlabel ?_
  rw [hread, Tree.readMembers]
  cases tree.read depth with
  | error fault => rfl
  | ok value =>
    simp only [Except.map, bind, Except.bind, hskip, hothers]
    cases Tree.readMembers depth members <;> rfl

theorem readMembers_intercalate {members : List Tree.Member} (hnonempty : members ≠ [])
    (hlabels : ∀ member ∈ members, Tree.WrittenAs (.string member.name) member.label)
    (hreads : ∀ member ∈ members, ReadAs member.value member.text)
    (hfuel : 2 * ([','].intercalate
      (members.map fun member => member.label ++ ':' :: member.text)).length + 1 ≤ fuel) :
    readMembers fuel depth ([','].intercalate
        (members.map fun member => member.label ++ ':' :: member.text) ++ '}' :: rest) =
      (Tree.readMembers depth (members.map fun member => (member.name, member.value))).map
        fun values => (values, rest) := by
  induction members generalizing fuel with
  | nil => exact absurd rfl hnonempty
  | cons first members ih =>
    have hfirst := hreads first (.head _)
    have hlabel := hlabels first (.head _)
    obtain ⟨fuel, rfl⟩ : ∃ less, fuel = less + 1 := ⟨fuel - 1, by omega⟩
    cases members with
    | nil =>
      simp only [List.map_cons, List.map_nil, List.intercalate_singleton, List.append_assoc,
        List.length_append, List.length_cons, List.cons_append] at hfuel ⊢
      exact hfirst.readMembers_last hlabel (by omega)
    | cons second members =>
      have hothers := @ih fuel (List.cons_ne_nil second members)
        (fun member hmember => hlabels member (.tail _ hmember))
        (fun member hmember => hreads member (.tail _ hmember))
      simp only [List.map_cons, List.intercalate_cons_cons, List.append_assoc, List.length_append,
        List.length_cons, List.cons_append, List.nil_append] at hfuel hothers ⊢
      exact hfirst.readMembers_more hlabel (by omega) (hothers (by omega))

theorem exists_intercalate_cons (first : List Char) (pieces : List (List Char)) :
    ∃ tail, [','].intercalate (first :: pieces) = first ++ tail := by
  cases pieces with
  | nil => exact ⟨[], by simp⟩
  | cons second pieces => exact ⟨_, by rw [List.intercalate_cons_cons, List.append_assoc]⟩

theorem exists_head_items {items : List (Tree × List Char)} (hnonempty : items ≠ [])
    (h : ∀ item ∈ items, item.1.WrittenAs item.2) (rest : List Char) :
    ∃ c tail, skipSpace ([','].intercalate (items.map (·.2)) ++ rest) = c :: tail ∧ c ≠ ']' := by
  obtain ⟨first, items, rfl⟩ := List.exists_cons_of_ne_nil hnonempty
  obtain ⟨before, c, tail, hbefore, hfirst, hspace, hclose⟩ := (h first (.head _)).exists_head
  obtain ⟨more, hmore⟩ := exists_intercalate_cons first.2 (items.map (·.2))
  refine ⟨c, tail ++ (more ++ rest), ?_, hclose⟩
  rw [List.map_cons, hmore, hfirst]
  simp only [List.append_assoc, List.cons_append]
  rw [hbefore.skipSpace, skipSpace_cons hspace]

theorem exists_head_members {members : List Tree.Member} (hnonempty : members ≠ [])
    (h : ∀ member ∈ members, Tree.WrittenAs (.string member.name) member.label)
    (rest : List Char) :
    ∃ tail, skipSpace ([','].intercalate
      (members.map fun member => member.label ++ ':' :: member.text) ++ rest) = '"' :: tail := by
  obtain ⟨first, members, rfl⟩ := List.exists_cons_of_ne_nil hnonempty
  obtain ⟨before, chars, after, hbefore, -, -, hlabel⟩ := (h first (.head _)).exists_chars
  obtain ⟨more, hmore⟩ := exists_intercalate_cons (first.label ++ ':' :: first.text)
    (members.map fun member => member.label ++ ':' :: member.text)
  refine ⟨chars ++ '"' :: (after ++ ':' :: (first.text ++ (more ++ rest))), ?_⟩
  rw [List.map_cons, hmore, hlabel]
  simp only [List.append_assoc, List.cons_append]
  rw [hbefore.skipSpace, skipSpace_cons rfl]

theorem readValue_bracket {tail : List Char} (h : skipSpace text = c :: tail) (hc : c ≠ ']') :
    readValue (fuel + 1) (depth + 1) ('[' :: text) =
      (readItems fuel depth text).map fun read => (.array read.1, read.2) := by
  rw [readValue, skipSpace_cons rfl]
  simp only [← readItems_skipSpace text, h]
  split
  · rename_i heq
    exact absurd (List.cons.inj heq).1 hc
  · cases readItems fuel depth (c :: tail) <;> rfl

theorem readValue_brace {tail : List Char} (h : skipSpace text = c :: tail) (hc : c ≠ '}') :
    readValue (fuel + 1) (depth + 1) ('{' :: text) =
      (readMembers fuel depth text).map fun read => (ofMembers read.1, read.2) := by
  rw [readValue, skipSpace_cons rfl]
  simp only [← readMembers_skipSpace text, h]
  split
  · rename_i heq
    exact absurd (List.cons.inj heq).1 hc
  · cases readMembers fuel depth (c :: tail) <;> rfl

theorem Tree.WrittenAs.readAs {tree : Tree} (h : tree.WrittenAs text) : ReadAs tree text := by
  induction h with
  | nullWord | trueWord | falseWord =>
    rintro (_ | fuel) depth rest hfuel -
    · simp at hfuel
    · exact ⟨[], nofun, rfl⟩
  | @number literal proper =>
    obtain ⟨c, tail, hcons, hc⟩ := proper.exists_head
    rintro (_ | fuel) depth rest hfuel hrest
    · simp [hcons] at hfuel
    · have hnumber := readNumber_text proper hrest
      refine ⟨[], nofun, ?_⟩
      rw [hcons, List.cons_append] at hnumber ⊢
      rw [readValue_number hc, hnumber, Tree.read]
      cases literal.value <;> rfl
  | @string value text chars =>
    rintro (_ | fuel) depth rest hfuel -
    · simp at hfuel
    · have hstring := chars.readString rest
      refine ⟨[], nofun, ?_⟩
      simp only [List.cons_append, List.append_assoc, List.nil_append]
      rw [readValue, skipSpace_cons rfl]
      simp only [hstring, String.ofList_toList]
      rfl
  | @emptyArray blank hblank =>
    rintro (_ | fuel) (_ | depth) rest hfuel -
    · simp at hfuel
    · simp at hfuel
    · exact ⟨[], nofun, rfl⟩
    · refine ⟨[], nofun, ?_⟩
      simp only [List.cons_append, List.append_assoc, List.nil_append]
      rw [readValue, skipSpace_cons rfl]
      simp only [hblank.skipSpace, skipSpace_cons (c := ']') rfl]
      rfl
  | @array items nonempty inside ih =>
    rintro (_ | fuel) (_ | depth) rest hfuel -
    · simp at hfuel
    · simp at hfuel
    · exact ⟨[], nofun, rfl⟩
    · simp only [List.length_cons, List.length_append] at hfuel
      refine ⟨[], nofun, ?_⟩
      obtain ⟨c, tail, hskip, hclose⟩ := exists_head_items nonempty inside (']' :: rest)
      simp only [List.cons_append, List.append_assoc, List.nil_append]
      rw [readValue_bracket hskip hclose, readItems_intercalate nonempty ih (by omega), Tree.read]
      cases Tree.readItems depth (items.map (·.1)) <;> rfl
  | @emptyObject blank hblank =>
    rintro (_ | fuel) (_ | depth) rest hfuel -
    · simp at hfuel
    · simp at hfuel
    · exact ⟨[], nofun, rfl⟩
    · refine ⟨[], nofun, ?_⟩
      simp only [List.cons_append, List.append_assoc, List.nil_append]
      rw [readValue, skipSpace_cons rfl]
      simp only [hblank.skipSpace, skipSpace_cons (c := '}') rfl]
      rfl
  | @object members nonempty labels inside _ ih =>
    rintro (_ | fuel) (_ | depth) rest hfuel -
    · simp at hfuel
    · simp at hfuel
    · exact ⟨[], nofun, rfl⟩
    · simp only [List.length_cons, List.length_append] at hfuel
      refine ⟨[], nofun, ?_⟩
      obtain ⟨tail, hskip⟩ := exists_head_members nonempty labels ('}' :: rest)
      simp only [List.cons_append, List.append_assoc, List.nil_append]
      rw [readValue_brace hskip (by decide),
        readMembers_intercalate nonempty labels ih
          (by simpa only [List.length_append] using by omega), Tree.read]
      cases Tree.readMembers depth (members.map fun member => (member.name, member.value)) <;> rfl
  | @padded tree before text after hbefore hafter _ ih =>
    intro fuel depth rest hfuel hrest
    simp only [List.length_append] at hfuel
    have hstops : Stops (after ++ rest) := by
      intro c hc
      cases after with
      | nil => exact hrest c hc
      | cons d after =>
        obtain rfl : d = c := Option.some.inj hc
        exact .inl (isSpace_iff.mpr (hafter d (.head _)))
    obtain ⟨blank, hblank, hread⟩ := ih fuel depth (after ++ rest) (by omega) hstops
    refine ⟨blank ++ after, hblank.append hafter, ?_⟩
    simp only [List.append_assoc]
    rw [readValue_blank hbefore, hread]

/-- A text that writes a tree is read as that tree is, with its faults. -/
theorem Tree.WrittenAs.parse_eq {tree : Tree} {text : String} (h : tree.WrittenAs text.toList) :
    parse text = tree.read greatestDepth := by
  obtain ⟨blank, hblank, hread⟩ := h.readAs (2 * text.toList.length + 2) greatestDepth []
    (by omega) (by simp [Stops])
  rw [List.append_nil, List.append_nil] at hread
  have hend : (skipSpace blank).isEmpty = true := by
    have hskip := hblank.skipSpace []
    rw [List.append_nil] at hskip
    rw [hskip]
    rfl
  rw [parse]
  dsimp only
  rw [hread]
  cases tree.read greatestDepth with
  | error fault => rfl
  | ok value => simp [Except.map, bind, Except.bind, hend, pure, Except.pure]

end Stimulus.Json
