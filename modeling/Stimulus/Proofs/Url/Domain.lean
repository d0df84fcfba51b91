import Stimulus.Proofs.Url.Authority

/-! Domain names in their ASCII form, read again.  The tables leave ASCII characters as they are,
each label of the form reads as the text it stands for, and no label has a dot.  So a name that was
put in ASCII form is its own ASCII form, and so is a name of digits and dots. -/

namespace Stimulus

/-! ### Tables -/

namespace Text

theorem exists_readRows (pending : Nat) (row : List Nat) (text : List Char) :
    ∃ others rest, readRows pending row text = (row.reverse ++ others) :: rest := by
  induction text generalizing pending row with
  | nil => exact ⟨[pending], [], by simp [readRows]⟩
  | cons c text ih =>
    rw [readRows]
    split
    · obtain ⟨others, rest, h⟩ := ih 0 (pending :: row)
      exact ⟨pending :: others, rest, by simp [h]⟩
    · split
      · exact ⟨[pending], _, by simp; rfl⟩
      · exact ih _ row

theorem readRows_digits {digits : List Char} (h : ∀ c ∈ digits, c ≠ ' ' ∧ c ≠ ',')
    (pending : Nat) (row : List Nat) (text : List Char) :
    readRows pending row (digits ++ text) =
      readRows (digits.foldl (fun n c => n * 36 + tableDigit c) pending) row text := by
  induction digits generalizing pending with
  | nil => rfl
  | cons c digits ih =>
    obtain ⟨hblank, hcomma⟩ := h c (.head _)
    rw [List.cons_append, readRows, if_neg hblank, if_neg hcomma,
      ih fun c hc => h c (.tail _ hc)]
    rfl

namespace Runs

/-- A set has no number below the end of its first gap, which is the first number of its table. -/
theorem contains_ofText_of_lt {first : String} {others : List String} (digits : List Char) {n : Nat}
    (hfirst : digits ++ [' '] <+: first.toList)
    (hdigits : (digits.all fun c => c ≠ ' ' ∧ c ≠ ',') = true)
    (hn : n < digits.foldl (fun n c => n * 36 + tableDigit c) 0) :
    (ofText (" ".intercalate (first :: others))).contains n = false := by
  obtain ⟨rest, hrest⟩ : digits ++ [' '] <+: (" ".intercalate (first :: others)).toList := by
    refine hfirst.trans ?_
    cases others with
    | nil => simp
    | cons second others =>
      rw [String.intercalate_cons_cons, String.append_assoc, String.toList_append]
      exact List.prefix_append _ _
  obtain ⟨row, rows, hrows⟩ := exists_readRows 0
    [digits.foldl (fun n c => n * 36 + tableDigit c) 0] rest
  have hdigits : ∀ c ∈ digits, c ≠ ' ' ∧ c ≠ ',' := by simpa using hdigits
  rw [ofText, Text.rows, ← hrest, List.append_assoc, readRows_digits hdigits, List.singleton_append,
    readRows, if_pos rfl, hrows]
  simp [contains, containsFrom, hn]

end Runs

end Text

namespace Url

namespace Domain

open Text

theorem isMark_of_isAscii {c : Char} (h : isAscii c = true) : isMark c = false := by
  have hn : c.toNat < 768 := by
    rw [isAscii, decide_eq_true_eq] at h
    omega
  exact Runs.contains_ofText_of_lt ['l', 'c'] (by decide +kernel) (by decide) hn

theorem runsLeft_of_isAscii {c : Char} (h : isAscii c = true) : runsLeft c = false := by
  have hn : c.toNat < 128 := by simpa [isAscii] using h
  have hletter : leftwardRuns.contains c.toNat = false :=
    Runs.contains_ofText_of_lt ['1', '4', 'u'] (by decide +kernel) (by decide)
      (Nat.lt_trans hn (by decide))
  have hnumber : leftwardNumberRuns.contains c.toNat = false :=
    Runs.contains_ofText_of_lt ['1', '9', 'c'] (by decide +kernel) (by decide)
      (Nat.lt_trans hn (by decide))
  have hdirection : direction c ∉ [.leftward, .leftwardNumber] := by
    simp only [direction, hletter, hnumber, Bool.false_eq_true, if_false]
    repeat' split
    all_goals decide
  simpa [runsLeft] using hdirection

theorem joinersFit_of_isAscii {before text : List Char} (h : ∀ c ∈ text, isAscii c = true) :
    joinersFit before text = true := by
  induction text generalizing before with
  | nil => rfl
  | cons c rest ih =>
    have hjoiner : c ≠ joiner := by
      rintro rfl
      exact absurd (h _ (.head _)) (by decide)
    have hnonJoiner : c ≠ nonJoiner := by
      rintro rfl
      exact absurd (h _ (.head _)) (by decide)
    simp [joinersFit, hjoiner, hnonJoiner, ih fun d hd => h d (.tail _ hd)]

theorem composed_of_isAscii {text : List Char} (h : ∀ c ∈ text, isAscii c = true) :
    composed text = text := by
  rw [composed, if_pos]
  rw [List.all_eq_true]
  intro c hc
  have hn : c.toNat < 0x80 := by simpa [isAscii] using h c hc
  exact decide_eq_true (Nat.lt_trans hn (by decide))

theorem map?_of_stays {c : Char} (h : stays c = true) : map? c = some [c] := by
  rw [stays, Bool.and_eq_true, beq_iff_eq] at h
  exact h.1

theorem not_mem_of_stays {text : List Char} (h : ∀ c ∈ text, stays c = true) : '%' ∉ text := by
  intro hmem
  exact absurd (h _ hmem) (by decide +kernel)

end Domain

/-! ### Labels -/

namespace Punycode

/-- What a reader holds are characters of the form, and characters outside ASCII. -/
def Reader.Inside (form : List Char) (r : Reader) : Prop :=
  0x80 ≤ r.point ∧ ∀ c ∈ r.text, c ∈ form ∨ 0x80 ≤ c.toNat

theorem Reader.Inside.insert? {form : List Char} {r r' : Reader} (h : r.Inside form)
    (hinsert : r.insert? = some r') : r'.Inside form := by
  unfold Reader.insert? at hinsert
  dsimp only at hinsert
  by_cases hvalid : (r.point + (r.index + r.sum) / (r.text.length + 1)).isValidChar
  · rw [dif_pos hvalid] at hinsert
    obtain rfl := Option.some.inj hinsert
    refine ⟨Nat.le_trans h.1 (Nat.le_add_right _ _), fun c hc => ?_⟩
    rcases List.eq_or_mem_of_mem_insertIdx hc with rfl | hc
    · exact .inr (Nat.le_trans h.1 (Nat.le_add_right _ _))
    · exact h.2 c hc
  · rw [dif_neg hvalid] at hinsert
    cases hinsert

theorem Reader.Inside.step? {form : List Char} {r r' : Reader} {c : Char} (h : r.Inside form)
    (hstep : r.step? c = some r') : r'.Inside form := by
  obtain ⟨value, -, hstep⟩ := Option.bind_eq_some_iff.mp hstep
  dsimp only at hstep
  split at hstep
  · refine Reader.Inside.insert? ?_ hstep
    exact h
  · obtain rfl := Option.some.inj hstep
    exact h

theorem Reader.Inside.foldlM {form digits : List Char} {r r' : Reader} (h : r.Inside form)
    (hfold : digits.foldlM Reader.step? r = some r') : r'.Inside form := by
  induction digits generalizing r with
  | nil =>
    obtain rfl := Option.some.inj hfold
    exact h
  | cons c digits ih =>
    rw [List.foldlM_cons] at hfold
    obtain ⟨next, hnext, hfold⟩ := Option.bind_eq_some_iff.mp hfold
    exact ih (h.step? hnext) hfold

/-- A text that is read from an ASCII form has no other ASCII characters than the form. -/
theorem mem_of_decode? {form text : List Char} {c : Char} (h : decode? form = some text)
    (hc : c ∈ text) : c ∈ form ∨ 0x80 ≤ c.toNat := by
  have hread {basic digits : List Char} (hbasic : ∀ c ∈ basic, c ∈ form)
      (h : ((digits.foldlM Reader.step? ⟨0x80, 0, 72, 0, 1, 36, basic⟩).bind fun last =>
        if last.weight = 1 then some last.text else none) = some text) :
      c ∈ form ∨ 0x80 ≤ c.toNat := by
    obtain ⟨last, hlast, h⟩ := Option.bind_eq_some_iff.mp h
    split at h
    · obtain rfl := Option.some.inj h
      exact (Reader.Inside.foldlM ⟨Nat.le_refl _, fun c hc => .inl (hbasic c hc)⟩ hlast).2 c hc
    · cases h
  unfold decode? at h
  rw [List.span_eq_takeWhile_dropWhile] at h
  dsimp only at h
  -- What stands before the last hyphen is a part of the form.
  cases hrest : form.reverse.dropWhile (· ≠ '-') with
  | nil =>
    rw [hrest] at h
    exact hread (by simp) h
  | cons hyphen rest =>
    cases rest with
    | nil =>
      rw [hrest] at h
      exact hread (by simp) h
    | cons b rest =>
      rw [hrest] at h
      refine hread (fun c hc => ?_) h
      have hmem : c ∈ form.reverse.dropWhile (· ≠ '-') := by
        rw [hrest]
        exact .tail _ (List.mem_reverse.mp hc)
      exact List.mem_reverse.mp ((List.dropWhile_sublist _).mem hmem)

end Punycode

namespace Domain

open Text

/-- A text that is not written in ASCII behind a mark of its own is read as it stands. -/
theorem labelText?_eq_self {label : List Char} (h : ¬"xn--".toList <+: label) :
    labelText? label = some label := by
  unfold labelText?
  split
  · exact absurd (List.prefix_append "xn--".toList _) h
  · rfl

theorem decode?_of_labelText? {form text : List Char}
    (h : labelText? ("xn--".toList ++ form) = some text) :
    form.all isAscii = true ∧ Punycode.decode? form = some text := by
  have hform : "xn--".toList ++ form = 'x' :: 'n' :: '-' :: '-' :: form := rfl
  rw [hform, labelText?] at h
  split at h
  · rename_i hascii
    obtain ⟨read, hread, h⟩ := Option.bind_eq_some_iff.mp h
    dsimp only at h
    split at h
    · cases h
    · exact ⟨hascii, hread.trans h⟩
  · cases h

theorem dot_not_mem_of_labelText? {label text : List Char} (h : labelText? label = some text)
    (hdot : '.' ∉ label) : '.' ∉ text := by
  by_cases hmark : "xn--".toList <+: label
  · obtain ⟨form, rfl⟩ := hmark
    intro hmem
    rcases Punycode.mem_of_decode? (decode?_of_labelText? h).2 hmem with hmem | hhigh
    · exact hdot (List.mem_append.mpr (.inr hmem))
    · exact absurd hhigh (by decide)
  · rw [labelText?_eq_self hmark] at h
    obtain rfl := Option.some.inj h
    exact hdot

theorem isSound_iff {text : List Char} : isSound text = true ↔
    (∀ c ∈ text, stays c = true) ∧ composed text = text ∧ text.head?.any isMark = false ∧
      joinersFit [] text = true ∧ ¬"xn--".toList <+: text := by
  simp only [isSound, Bool.and_eq_true, List.all_eq_true, beq_iff_eq, Bool.not_eq_true',
    ← Bool.not_eq_true, List.isPrefixOf_iff_prefix, and_assoc]

/-- A label of an ASCII form and the text it stands for. -/
structure Reads (form text : List Char) : Prop where
  label : labelForm? text = some form
  text : labelText? form = some text
  dotless : '.' ∉ form
  ascii : ∀ c ∈ form, isAscii c = true
  stays : ∀ c ∈ form, stays c = true

theorem stays_digit : ∀ d < 36, stays (Punycode.digit d) = true := by
  decide +kernel

/-- A label of an ASCII form is read as the text that it was written for. -/
theorem reads_of_labelForm? {text form : List Char} (hsound : isSound text = true)
    (hdot : '.' ∉ text) (h : labelForm? text = some form) : Reads form text := by
  obtain ⟨hstays, -, -, -, hplain⟩ := isSound_iff.mp hsound
  have hlabel := h
  rw [labelForm?] at h
  split at h
  · rename_i hascii
    obtain rfl := Option.some.inj h
    exact ⟨hlabel, labelText?_eq_self hplain, hdot, List.all_eq_true.mp hascii, hstays⟩
  · dsimp only at h
    split at h
    · rename_i hread
      obtain rfl := Option.some.inj h
      have hall :
          ("xn--".toList.all fun c => c ≠ '.' ∧ isAscii c = true ∧ stays c = true) = true := by
        decide +kernel
      have hmark : ∀ c ∈ "xn--".toList, c ≠ '.' ∧ isAscii c = true ∧ stays c = true :=
        fun c hc => of_decide_eq_true (List.all_eq_true.mp hall c hc)
      have hdigit : ∀ d < 36, Punycode.digit d ≠ '.' := by decide
      refine ⟨hlabel, hread, fun hmem => ?_, fun c hc => ?_, fun c hc => ?_⟩
      · rcases List.mem_append.mp hmem with hmem | hmem
        · exact (hmark _ hmem).1 rfl
        · rcases Punycode.mem_encode hmem with hmem | hmem | ⟨d, hd, heq⟩
          · exact hdot hmem
          · exact absurd hmem (by decide)
          · exact hdigit d hd heq.symm
      · rcases List.mem_append.mp hc with hc | hc
        · exact (hmark c hc).2.1
        · exact List.all_eq_true.mp (decode?_of_labelText? hread).1 c hc
      · rcases List.mem_append.mp hc with hc | hc
        · exact (hmark c hc).2.2
        · rcases Punycode.mem_encode hc with hc | rfl | ⟨d, hd, rfl⟩
          · exact hstays c hc
          · decide +kernel
          · exact stays_digit d hd
    · cases h

/-- An ASCII text whose characters stay, and that does not look like a label that was encoded, is a
label that stands for itself. -/
theorem reads_self {text : List Char} (hascii : ∀ c ∈ text, isAscii c = true)
    (hstays : ∀ c ∈ text, stays c = true) (hdot : '.' ∉ text) (hmark : ¬"xn--".toList <+: text) :
    isSound text = true ∧ Reads text text := by
  have hsound : isSound text = true := by
    refine isSound_iff.mpr
      ⟨hstays, composed_of_isAscii hascii, ?_, joinersFit_of_isAscii hascii, hmark⟩
    cases text with
    | nil => rfl
    | cons c rest => rw [List.head?_cons, Option.any_some, isMark_of_isAscii (hascii c (.head _))]
  refine ⟨hsound, reads_of_labelForm? hsound hdot ?_⟩
  rw [labelForm?, if_pos (List.all_eq_true.mpr hascii)]

/-! ### Names -/

/-- A name whose characters are left as they are is mapped to itself. -/
theorem mapped?_eq_self {name : List Char} (hascii : ∀ c ∈ name, isAscii c = true)
    (hstays : ∀ c ∈ name, stays c = true) : mapped? name = some name := by
  have hparts : name.mapM map? = some (name.map fun c => [c]) := by
    clear hascii
    induction name with
    | nil => rfl
    | cons c name ih =>
      rw [List.mapM_cons, map?_of_stays (hstays c (.head _)), ih fun d hd => hstays d (.tail _ hd)]
      rfl
  have hflat : (name.map fun c => [c]).flatten = name := by
    rw [← List.flatMap_def, List.flatMap_singleton']
  rw [mapped?, hparts, Option.map_some, hflat, composed_of_isAscii hascii]

/-- The bytes of a text without percent signs are those of its characters. -/
theorem fromUTF8?_decode {text : List Char} (h : '%' ∉ text) :
    String.fromUTF8? (ByteArray.mk (Percent.decode text).toArray) = some (String.ofList text) := by
  have hkept : Percent.encode (· == '%') text = text := by
    refine Percent.encode_eq_self fun c hc => ?_
    rw [beq_eq_false_iff_ne]
    rintro rfl
    exact h hc
  have hread : Percent.text? (Percent.encode (· == '%') text) = some (String.ofList text) :=
    Percent.text?_encode (by decide) text
  have hbytes : ByteArray.mk (Percent.decode text).toArray = (Percent.decode text).toByteArray := by
    rw [← List.data_toByteArray]
  rw [hbytes, ← Percent.text?, ← hread, hkept]

/-- The labels of a name can stand together: each is sound, and if one of them runs from right to
left, all of them keep their direction. -/
def AreSound (texts : List (List Char)) : Prop :=
  (texts.all fun text =>
    isSound text && (!(texts.any (·.any runsLeft)) || keepsDirection text)) = true

variable {texts forms : List (List Char)}

theorem chars_of_reads (h : List.Forall₂ Reads forms texts) :
    ∀ c ∈ ['.'].intercalate forms, isAscii c = true ∧ stays c = true := by
  have hforms : ∀ form ∈ forms, ∀ c ∈ form, isAscii c = true ∧ stays c = true := by
    induction h with
    | nil => simp
    | cons hfirst _ ih => simpa using ⟨fun c hc => ⟨hfirst.ascii c hc, hfirst.stays c hc⟩, ih⟩
  intro c hc
  rcases mem_intercalate hc with rfl | ⟨form, hmem, hc⟩
  · decide +kernel
  · exact hforms form hmem c hc

/-- A name that is made of the forms of sound labels is its own ASCII form. -/
theorem toAscii?_intercalate (h : List.Forall₂ Reads forms texts) (hne : forms ≠ [])
    (hsound : AreSound texts) :
    toAscii? (Percent.decode (['.'].intercalate forms)) = some (['.'].intercalate forms) := by
  have hascii : ∀ c ∈ ['.'].intercalate forms, isAscii c = true :=
    fun c hc => (chars_of_reads h c hc).1
  have hstays : ∀ c ∈ ['.'].intercalate forms, stays c = true :=
    fun c hc => (chars_of_reads h c hc).2
  have htexts : forms.mapM labelText? = some texts :=
    mapM_eq_some_iff.mpr (h.imp fun _ _ h => h.text)
  have hforms : texts.mapM labelForm? = some forms :=
    mapM_eq_some_iff.mpr (h.flip.imp fun _ _ h => h.label)
  have hdotless : ∀ form ∈ forms, '.' ∉ form := by
    clear hne hascii hstays htexts hforms hsound
    induction h with
    | nil => simp
    | cons hfirst _ ih => simpa using ⟨hfirst.dotless, ih⟩
  rw [AreSound] at hsound
  simp only [toAscii?, fromUTF8?_decode (not_mem_of_stays hstays), String.toList_ofList,
    mapped?_eq_self hascii hstays, List.splitOn_intercalate '.' hdotless hne, htexts, hforms,
    hsound, Option.bind_eq_bind, Option.bind_some, if_true, Option.pure_def]

/-- A name in its ASCII form is made of the forms of sound labels. -/
theorem exists_reads_of_toAscii? {bytes : List UInt8} {name : List Char}
    (h : toAscii? bytes = some name) :
    ∃ forms texts, name = ['.'].intercalate forms ∧ List.Forall₂ Reads forms texts ∧ forms ≠ [] ∧
      AreSound texts := by
  simp only [toAscii?, Option.bind_eq_bind, Option.bind_eq_some_iff] at h
  obtain ⟨given, -, mapped, -, texts, htexts, h⟩ := h
  split at h
  · rename_i hsound
    obtain ⟨forms, hforms, h⟩ := Option.bind_eq_some_iff.mp h
    have hlabel : ∀ text ∈ texts, isSound text = true ∧ '.' ∉ text := by
      intro text htext
      obtain ⟨label, hmem, hlabel⟩ := exists_of_mem_mapM_eq_some htexts htext
      have hall := List.all_eq_true.mp hsound text htext
      exact ⟨(Bool.and_eq_true_iff.mp hall).1,
        dot_not_mem_of_labelText? hlabel (not_mem_of_mem_splitOn hmem)⟩
    have hreads : List.Forall₂ Reads forms texts := by
      have hlabels := (List.forall₂_and_left _ _).mpr ⟨hlabel, mapM_eq_some_iff.mp hforms⟩
      exact (hlabels.imp fun _ _ h => reads_of_labelForm? h.1.1 h.1.2 h.2).flip
    refine ⟨forms, texts, (Option.some.inj h).symm, hreads, ?_, hsound⟩
    rintro rfl
    cases hreads
    simpa using (mapM_eq_some_iff.mp htexts).length_eq
  · cases h

theorem stays_of_toAscii? {bytes : List UInt8} {name : List Char} (h : toAscii? bytes = some name) :
    ∀ c ∈ name, stays c = true := by
  obtain ⟨forms, texts, rfl, hreads, -⟩ := exists_reads_of_toAscii? h
  exact fun c hc => (chars_of_reads hreads c hc).2

/-- A name in its ASCII form is its own ASCII form. -/
theorem toAscii?_of_toAscii? {bytes : List UInt8} {name : List Char}
    (h : toAscii? bytes = some name) : toAscii? (Percent.decode name) = some name := by
  obtain ⟨forms, texts, rfl, hreads, hne, hsound⟩ := exists_reads_of_toAscii? h
  exact toAscii?_intercalate hreads hne hsound

end Domain

end Url

end Stimulus
