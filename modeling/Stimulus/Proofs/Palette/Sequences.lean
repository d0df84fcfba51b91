import Mathlib.Data.List.Forall2
import Stimulus.Palette

/-! Terminal sequences in a painted text.  What a palette makes of a text is the text with complete
sequences between its characters, and taking the sequences out gives the text again if none of its
own characters starts one. -/

namespace Stimulus.Palette

/-- The character that starts a terminal sequence. -/
def escape : Char := '\x1b'

/-- A terminal sequence: an escape and a bracket, numbers between semicolons, and a letter. -/
def IsSequence (mark : List Char) : Prop :=
  ∃ parameters : List Char, (∀ c ∈ parameters, c.isDigit ∨ c = ';') ∧
    mark = escape :: '[' :: parameters ++ ['m']

/-- A text without its terminal sequences: each runs from an escape and a bracket to the next `m`.
The flag says that the text begins in a sequence. -/
def withoutSequences : Bool → List Char → List Char
  | _, [] => []
  | true, c :: rest => withoutSequences (c ≠ 'm') rest
  | false, '\x1b' :: '[' :: rest =>
    if 'm' ∈ rest then withoutSequences true rest
    else '\x1b' :: '[' :: withoutSequences false rest
  | false, c :: rest => c :: withoutSequences false rest

/-- What is left of a text without its terminal sequences. -/
def plainText (text : String) : String :=
  String.ofList (withoutSequences false text.toList)

/-- A coloured text is a plain one with terminal sequences between its characters. -/
inductive Painted : List Char → List Char → Prop
  | nil : Painted [] []
  | char {plain coloured : List Char} (c : Char) (rest : Painted plain coloured) :
      Painted (c :: plain) (c :: coloured)
  | sequence {plain coloured mark : List Char} (complete : IsSequence mark)
      (rest : Painted plain coloured) : Painted plain (mark ++ coloured)

/-! ### Sequences are taken out -/

theorem withoutSequences_true_append {parameters rest : List Char} (h : 'm' ∉ parameters) :
    withoutSequences true (parameters ++ 'm' :: rest) = withoutSequences false rest := by
  induction parameters with
  | nil => simp [withoutSequences]
  | cons c parameters ih =>
    obtain ⟨hc, hparameters⟩ := not_or.mp fun hm => h (List.mem_cons.mpr hm)
    simpa [withoutSequences, Ne.symm hc] using ih hparameters

theorem IsSequence.withoutSequences_append {mark : List Char} (h : IsSequence mark)
    (rest : List Char) : withoutSequences false (mark ++ rest) = withoutSequences false rest := by
  obtain ⟨parameters, hparameters, rfl⟩ := h
  have hletter : 'm' ∉ parameters := by
    intro hmem
    exact absurd (hparameters 'm' hmem) (by decide)
  rw [List.append_assoc, List.cons_append, List.cons_append, List.singleton_append, escape,
    withoutSequences, if_pos (by simp), withoutSequences_true_append hletter]

theorem withoutSequences_cons {c : Char} (h : c ≠ escape) (rest : List Char) :
    withoutSequences false (c :: rest) = c :: withoutSequences false rest := by
  rw [withoutSequences]
  rintro _ rfl
  exact absurd rfl h

namespace Painted

variable {plain plain' coloured coloured' : List Char}

theorem refl : (text : List Char) → Painted text text
  | [] => nil
  | c :: rest => char c (refl rest)

theorem append (h : Painted plain coloured) (h' : Painted plain' coloured') :
    Painted (plain ++ plain') (coloured ++ coloured') := by
  induction h with
  | nil => exact h'
  | char c _ ih => exact char c ih
  | sequence complete _ ih =>
    rw [List.append_assoc]
    exact sequence complete ih

/-- The sequences of a painted text are all that it has if the text has no escape of its own. -/
theorem withoutSequences_eq (h : Painted plain coloured) (hplain : escape ∉ plain) :
    withoutSequences false coloured = plain := by
  induction h with
  | nil => rfl
  | char c _ ih =>
    obtain ⟨hc, hplain⟩ := not_or.mp fun hm => hplain (List.mem_cons.mpr hm)
    rw [withoutSequences_cons (Ne.symm hc), ih hplain]
  | sequence complete _ ih => rw [complete.withoutSequences_append, ih hplain]

end Painted

/-! ### Painting -/

theorem isSequence_reset : IsSequence reset :=
  ⟨['0'], List.forall_mem_singleton.mpr (by decide), rfl⟩

/-- The sequence that starts a style. -/
theorem isSequence_start (style : Style) :
    IsSequence ('\x1b' :: '[' :: style.parameters.toList ++ ['m']) :=
  ⟨style.parameters.toList, by cases style <;> simp [Style.parameters, Char.isDigit], rfl⟩

theorem painted_resume {start : List Char} (hstart : IsSequence start) (text : List Char) :
    Painted text (resume start text) := by
  fun_induction resume start text with
  | case1 rest ih =>
    -- The sequence that ends a style is one of the text's own.
    rw [List.append_assoc]
    exact (Painted.refl reset).append (.sequence hstart ih)
  | case2 c rest _ ih => exact .char c ih
  | case3 => exact .nil

/-- Two texts that are the same but for terminal sequences in the second one. -/
def PaintedText (plain coloured : String) : Prop :=
  Painted plain.toList coloured.toList

namespace PaintedText

theorem refl (text : String) : PaintedText text text :=
  Painted.refl text.toList

theorem append {plain plain' coloured coloured' : String} (h : PaintedText plain coloured)
    (h' : PaintedText plain' coloured') : PaintedText (plain ++ plain') (coloured ++ coloured') := by
  rw [PaintedText, String.toList_append, String.toList_append]
  exact Painted.append h h'

theorem paint (style : Style) (text : String) :
    PaintedText (Palette.plain.paint style text) (Palette.ansi.paint style text) := by
  have hstart := isSequence_start style
  have hinner := (painted_resume hstart text.toList).append (.sequence isSequence_reset .nil)
  simpa [PaintedText, Palette.paint] using Painted.sequence hstart hinner

theorem join {plain coloured : List String} (h : List.Forall₂ PaintedText plain coloured) :
    PaintedText (String.join plain) (String.join coloured) := by
  induction h with
  | nil => exact refl ""
  | cons h _ ih =>
    rw [String.join_cons, String.join_cons]
    exact h.append ih

end PaintedText

end Stimulus.Palette
