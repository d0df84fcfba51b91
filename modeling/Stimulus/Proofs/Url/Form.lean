import Stimulus.Proofs.Url.Resource
import Stimulus.Proofs.Url.Wire
import Stimulus.Text.Lossy

/-! Queries as pairs of a name and a value.  What encoding a query writes in codes is read back by
decoding, and it adds and removes none of the characters that separate pairs.  So the pairs of an
operation's query are those that stand behind the question mark of the path, in their order, and the
format behind them. -/

namespace Stimulus

open Url.Percent (encode encodeChar inQuery)

namespace Url

/-! ### Pairs -/

namespace Form

/-- A plus is a blank. -/
def unplus (c : Char) : Char :=
  if c = '+' then ' ' else c

/-- What a name or a value says; bytes that are no text are replaced. -/
def decode (part : List Char) : String :=
  String.ofList (Text.lossyFrom none (Percent.decode (part.map unplus)))

/-- The name in front of the first equals sign, and the value behind it. -/
def pair (piece : List Char) : String × String :=
  (decode (piece.takeWhile (· != '=')), decode (piece.dropWhile (· != '=')).tail)

/-- The pairs of a query; nothing between two ampersands is no pair. -/
def pairs (query : List Char) : List (String × String) :=
  ((query.splitOn '&').filter (!·.isEmpty)).map pair

theorem pairs_append_cons (front back : List Char) :
    pairs (front ++ '&' :: back) = pairs front ++ pairs back := by
  simp [pairs, List.splitOn, List.splitOnP_append_cons]

/-! ### Codes read back -/

/-- Whether a percent sign in front of a text starts a code. -/
def opensCode : List Char → Bool
  | a :: b :: _ => (Percent.value? a).isSome && (Percent.value? b).isSome
  | _ => false

theorem decode_percent {text : List Char} (h : opensCode text = false) :
    Percent.decode ('%' :: text) = '%'.toUInt8 :: Percent.decode text := by
  match text with
  | [] => rfl
  | [a] => rfl
  | a :: b :: rest =>
    rw [Percent.decode]
    split
    · rename_i ha hb
      simp [opensCode, ha, hb] at h
    · rfl

theorem exists_decode_of_opensCode {text : List Char} (h : opensCode text = true) :
    ∃ a b rest high low, text = a :: b :: rest ∧ Percent.value? a = some high ∧
      Percent.value? b = some low := by
  match text with
  | a :: b :: rest =>
    rw [opensCode, Bool.and_eq_true, Option.isSome_iff_exists, Option.isSome_iff_exists] at h
    obtain ⟨⟨high, hhigh⟩, low, hlow⟩ := h
    exact ⟨a, b, rest, high, low, rfl, hhigh, hlow⟩

theorem decode_code {a b : Char} {high low : Nat} (ha : Percent.value? a = some high)
    (hb : Percent.value? b = some low) (rest : List Char) :
    Percent.decode ('%' :: a :: b :: rest) =
      UInt8.ofNat (high * 16 + low) :: Percent.decode rest := by
  rw [Percent.decode, ha, hb]

theorem value?_unplus (c : Char) : Percent.value? (unplus c) = Percent.value? c := by
  unfold unplus
  split
  · subst c
    decide
  · rfl

theorem unplus_eq_percent_iff {c : Char} : unplus c = '%' ↔ c = '%' := by
  unfold unplus
  split
  · subst c
    decide
  · rfl

theorem opensCode_map_unplus (text : List Char) : opensCode (text.map unplus) = opensCode text := by
  match text with
  | [] | [_] => rfl
  | a :: b :: _ => simp [opensCode, value?_unplus]

/-- No digit is encoded in a query. -/
theorem value?_of_inQuery {c : Char} (h : inQuery c = true) : Percent.value? c = none := by
  have hbetween (low high : Char) (hle : low ≤ c ∧ c ≤ high) :
      low.toNat ≤ c.toNat ∧ c.toNat ≤ high.toNat := hle
  simp only [inQuery, Percent.isControl, Bool.or_eq_true, decide_eq_true_eq] at h
  rcases h with hcontrol | hlisted
  · unfold Percent.value?
    split
    · have := hbetween '0' '9' ‹_›
      simp at this
      omega
    · split
      · have := hbetween 'a' 'f' ‹_›
        simp at this
        omega
      · split
        · have := hbetween 'A' 'F' ‹_›
          simp at this
          omega
        · rfl
  · have hmem := List.contains_iff_mem.mp hlisted
    simp only [List.mem_cons, List.not_mem_nil, or_false] at hmem
    rcases hmem with rfl | rfl | rfl | rfl | rfl | rfl <;> rfl

theorem exists_encodeChar {c : Char} (h : inQuery c = true) :
    ∃ rest, encodeChar inQuery c = '%' :: rest := by
  obtain ⟨b, bytes, hbytes, -⟩ := Percent.utf8EncodeChar_eq_cons c
  rw [encodeChar, if_pos h, hbytes, List.flatMap_cons]
  exact ⟨_, rfl⟩

theorem encode_cons (c : Char) (text : List Char) :
    encode inQuery (c :: text) = encodeChar inQuery c ++ encode inQuery text :=
  List.flatMap_cons

theorem encode_cons_of_kept {c : Char} (h : inQuery c = false) (text : List Char) :
    encode inQuery (c :: text) = c :: encode inQuery text := by
  rw [encode_cons, encodeChar, if_neg (by simp [h])]
  rfl

/-- A code starts with a percent sign, which is no digit. -/
theorem opensCode_encode (text : List Char) : opensCode (encode inQuery text) = opensCode text := by
  have hcode {c : Char} (hc : inQuery c = true) (rest : List Char) :
      opensCode (encode inQuery (c :: rest)) = false := by
    obtain ⟨code, hcode⟩ := exists_encodeChar hc
    rw [encode_cons, hcode]
    cases code <;> cases encode inQuery rest <;> rfl
  match text with
  | [] => rfl
  | [a] =>
    by_cases ha : inQuery a = true
    · rw [hcode ha]
      rfl
    · rw [encode_cons_of_kept (by simpa using ha)]
      rfl
  | a :: b :: rest =>
    by_cases ha : inQuery a = true
    · rw [hcode ha]
      simp [opensCode, value?_of_inQuery ha]
    · rw [encode_cons_of_kept (by simpa using ha)]
      by_cases hb : inQuery b = true
      · obtain ⟨code, hcode⟩ := exists_encodeChar hb
        have hpercent : Percent.value? '%' = none := by decide
        rw [encode_cons, hcode]
        simp [opensCode, value?_of_inQuery hb, hpercent]
      · rw [encode_cons_of_kept (by simpa using hb)]
        rfl

theorem map_unplus_encodeChar {c : Char} (h : inQuery c = true) :
    (encodeChar inQuery c).map unplus = (String.utf8EncodeChar c).flatMap Percent.ofByte := by
  have hdigit : ∀ n < 16, unplus (Percent.digit n) = Percent.digit n := by decide
  rw [encodeChar, if_pos h, List.map_flatMap]
  refine List.flatMap_congr fun b _ => ?_
  have hb : b.toNat < 256 := b.toNat_lt
  have hpercent : unplus '%' = '%' := rfl
  simp [Percent.ofByte, hpercent, hdigit _ (show b.toNat / 16 < 16 by omega),
    hdigit _ (show b.toNat % 16 < 16 by omega)]

/-- The codes of a query decode to what was encoded, and codes that were there before stay. -/
theorem decode_map_unplus_encode (text : List Char) :
    Percent.decode ((encode inQuery text).map unplus) = Percent.decode (text.map unplus) := by
  induction hlength : text.length using Nat.strong_induction_on generalizing text with
  | _ length ih =>
    subst hlength
    cases text with
    | nil => rfl
    | cons c rest =>
      have hrest := ih rest.length (by simp) rest rfl
      by_cases hset : inQuery c = true
      · have hplus : unplus c = c := if_neg (by rintro rfl; revert hset; decide)
        have hpercent : c ≠ '%' := by rintro rfl; revert hset; decide
        rw [encode_cons, List.map_append, map_unplus_encodeChar hset,
          Percent.decode_flatMap_ofByte, List.map_cons, hplus, Percent.decode_cons hpercent, hrest]
      rw [encode_cons_of_kept (by simpa using hset), List.map_cons, List.map_cons]
      by_cases hpercent : c = '%'
      · subst hpercent
        cases hcode : opensCode rest with
        | false =>
          have hencoded : opensCode ((encode inQuery rest).map unplus) = false := by
            rw [opensCode_map_unplus, opensCode_encode, hcode]
          have hplain : opensCode (rest.map unplus) = false := by
            rw [opensCode_map_unplus, hcode]
          rw [show unplus '%' = '%' from rfl, decode_percent hencoded, decode_percent hplain, hrest]
        | true =>
          obtain ⟨a, b, rest, high, low, rfl, ha, hb⟩ := exists_decode_of_opensCode hcode
          have hkept {d : Char} {n : Nat} (hd : Percent.value? d = some n) :
              inQuery d = false := by
            by_contra hset
            rw [value?_of_inQuery (by simpa using hset)] at hd
            cases hd
          rw [encode_cons_of_kept (hkept ha), encode_cons_of_kept (hkept hb)]
          simp only [List.map_cons]
          rw [show unplus '%' = '%' from rfl, decode_code (by rw [value?_unplus, ha])
            (by rw [value?_unplus, hb]), decode_code (by rw [value?_unplus, ha])
            (by rw [value?_unplus, hb]), ih rest.length (by simp; omega) rest rfl]
      · have hother : unplus c ≠ '%' := fun h => hpercent (unplus_eq_percent_iff.mp h)
        rw [Percent.decode_cons hother, Percent.decode_cons hother, hrest]

/-! ### Separators kept -/

/-- A character that separates pairs, or a name from its value. -/
def isSeparator (c : Char) : Bool :=
  c == '&' || c == '='

theorem ne_of_mem_encodeChar {c d separator : Char} (hseparator : isSeparator separator = true)
    (hc : c ≠ separator) (hd : d ∈ encodeChar inQuery c) : d ≠ separator := by
  have hdigit : ∀ n < 16, isSeparator (Percent.digit n) = false := by decide
  rintro rfl
  rw [encodeChar] at hd
  split at hd
  · obtain ⟨b, -, hb⟩ := List.mem_flatMap.mp hd
    have hlt : b.toNat < 256 := b.toNat_lt
    simp only [Percent.ofByte, List.mem_cons, List.not_mem_nil, or_false] at hb
    rcases hb with rfl | rfl | rfl
    · exact absurd hseparator (by decide)
    · simp [hdigit _ (show b.toNat / 16 < 16 by omega)] at hseparator
    · simp [hdigit _ (show b.toNat % 16 < 16 by omega)] at hseparator
  · exact hc (List.mem_singleton.mp hd).symm

theorem not_mem_encode {text : List Char} {separator : Char}
    (hseparator : isSeparator separator = true) (h : separator ∉ text) :
    separator ∉ encode inQuery text := by
  intro hmem
  obtain ⟨c, hc, hmem⟩ := List.mem_flatMap.mp hmem
  have hne : c ≠ separator := fun heq => h (heq ▸ hc)
  exact ne_of_mem_encodeChar hseparator hne hmem rfl

theorem encode_eq_nil_iff {text : List Char} : encode inQuery text = [] ↔ text = [] := by
  cases text with
  | nil => simp [encode]
  | cons c rest =>
    by_cases hset : inQuery c = true
    · obtain ⟨code, hcode⟩ := exists_encodeChar hset
      simp [encode_cons, hcode]
    · simp [encode_cons_of_kept (by simpa using hset)]

theorem encode_intercalate (pieces : List (List Char)) :
    encode inQuery (['&'].intercalate pieces) =
      ['&'].intercalate (pieces.map (encode inQuery)) := by
  induction pieces with
  | nil => rfl
  | cons piece pieces ih =>
    by_cases hempty : pieces = []
    · simp [hempty]
    · have hmap : pieces.map (encode inQuery) ≠ [] := by simpa using hempty
      rw [List.map_cons, List.intercalate_cons_of_ne_nil hempty,
        List.intercalate_cons_of_ne_nil hmap, ← ih]
      simp [encode, encodeChar, show inQuery '&' = false by decide]

theorem splitOn_encode (text : List Char) :
    (encode inQuery text).splitOn '&' = (text.splitOn '&').map (encode inQuery) := by
  have hjoined : encode inQuery text =
      ['&'].intercalate ((text.splitOn '&').map (encode inQuery)) := by
    rw [← encode_intercalate, List.intercalate_splitOn]
  rw [hjoined]
  refine List.splitOn_intercalate '&' (fun piece hpiece => ?_) (by simp)
  obtain ⟨plain, hplain, rfl⟩ := List.mem_map.mp hpiece
  exact not_mem_encode rfl (not_mem_of_mem_splitOn hplain)

theorem takeWhile_encode (text : List Char) :
    (encode inQuery text).takeWhile (· != '=') = encode inQuery (text.takeWhile (· != '=')) := by
  induction text with
  | nil => rfl
  | cons c rest ih =>
    by_cases hc : c = '='
    · subst hc
      rfl
    · have hcode : ∀ d ∈ encodeChar inQuery c, (d != '=') = true := fun d hd =>
        bne_iff_ne.mpr (ne_of_mem_encodeChar rfl hc hd)
      rw [encode_cons, List.takeWhile_append_of_pos hcode, ih,
        List.takeWhile_cons_of_pos (by simpa using hc), encode_cons]

theorem dropWhile_encode (text : List Char) :
    (encode inQuery text).dropWhile (· != '=') = encode inQuery (text.dropWhile (· != '=')) := by
  have hsame := List.takeWhile_append_dropWhile (p := (· != '=')) (l := encode inQuery text)
  conv_rhs at hsame =>
    rw [← List.takeWhile_append_dropWhile (p := (· != '=')) (l := text), encode,
      List.flatMap_append]
  rw [takeWhile_encode] at hsame
  exact List.append_cancel_left hsame

theorem decode_encode (part : List Char) : decode (encode inQuery part) = decode part := by
  rw [decode, decode_map_unplus_encode, decode]

theorem pair_encode (piece : List Char) : pair (encode inQuery piece) = pair piece := by
  have htail : (encode inQuery (piece.dropWhile (· != '='))).tail =
      encode inQuery (piece.dropWhile (· != '=')).tail := by
    cases hrest : piece.dropWhile (· != '=') with
    | nil => rfl
    | cons c rest =>
      have hc : (c != '=') = false := by
        have hhead := List.head?_dropWhile_not (· != '=') piece
        rwa [hrest] at hhead
      obtain rfl : c = '=' := by simpa using hc
      rfl
  rw [pair, takeWhile_encode, dropWhile_encode, htail, decode_encode, decode_encode, pair]

/-- A query has the pairs of the text that was encoded as a query. -/
theorem pairs_encode (query : List Char) : pairs (encode inQuery query) = pairs query := by
  have hempty : (fun piece : List Char => !(encode inQuery piece).isEmpty) =
      fun piece => !piece.isEmpty := by
    funext piece
    rw [Bool.eq_iff_iff]
    simp [encode_eq_nil_iff]
  rw [pairs, splitOn_encode, pairs, List.filter_map, List.map_map]
  exact congr (congrArg _ (funext pair_encode)) (congrArg (List.filter · _) hempty)

end Form

/-! ### The query in a text -/

/-- What stands behind the first question mark of a text. -/
def behindMark (text : List Char) : Option (List Char) :=
  match text.dropWhile (· != '?') with
  | _ :: query => some query
  | [] => none

theorem behindMark_append {front : List Char} {query : Option (List Char)} (h : '?' ∉ front) :
    behindMark (front ++ queryText query) = query := by
  have hfront : ∀ c ∈ front, (c != '?') = true := by
    intro c hc
    rw [bne_iff_ne]
    rintro rfl
    exact h hc
  rw [behindMark, List.dropWhile_append_of_pos hfront]
  cases query <;> rfl

theorem mem_of_mem_behindMark {text query : List Char} {c : Char}
    (hquery : behindMark text = some query) (hc : c ∈ query) : c ∈ text := by
  refine (List.dropWhile_sublist (· != '?')).mem ?_
  rw [behindMark] at hquery
  split at hquery
  · rename_i heq
    obtain rfl := Option.some.inj hquery
    rw [heq]
    exact .tail _ hc
  · cases hquery

theorem isSome_behindMark {text : List Char} : (behindMark text).isSome ↔ '?' ∈ text := by
  rw [behindMark]
  cases hrest : text.dropWhile (· != '?') with
  | nil =>
    rw [List.dropWhile_eq_nil_iff] at hrest
    have : '?' ∉ text := fun h => by simpa using hrest _ h
    simpa using this
  | cons c rest =>
    have hhead := List.head?_dropWhile_not (· != '?') text
    rw [hrest] at hhead
    obtain rfl : c = '?' := by simpa using hhead
    have hmem : '?' ∈ text.dropWhile (· != '?') := by simp [hrest]
    simpa using (List.dropWhile_sublist _).mem hmem

theorem Legible.question_not_mem {url : Url} (h : url.Legible) :
    '?' ∉ url.origin.text ++ pathText url.path := by
  have hscheme : ∀ scheme : Scheme, '?' ∉ scheme.name.toList := by
    intro scheme
    cases scheme <;> decide
  intro hmem
  rw [Origin.text_eq] at hmem
  simp only [List.mem_append, List.mem_cons] at hmem
  rcases hmem with (hmem | hmem | hmem | hmem | hmem) | hmem
  · exact hscheme _ hmem
  · exact absurd hmem (by decide)
  · exact absurd hmem (by decide)
  · exact absurd hmem (by decide)
  · exact absurd (h.origin.solid _ hmem) (by decide)
  · exact absurd (h.mem_pathText hmem) (by decide)

/-- The query of a URL is what stands behind the first question mark of its text. -/
theorem Legible.behindMark_chars {url : Url} (h : url.Legible) :
    behindMark url.chars = url.query := by
  rw [Url.chars, h.fragment]
  simpa [fragmentText] using behindMark_append h.question_not_mem

end Url

namespace BaseUrl

open Url (behindMark)
open Url.Form (pairs)

variable {base : BaseUrl} {descriptor : Descriptor}

theorem splitQuery_snd (h : descriptor.Unbroken) :
    (splitQuery descriptor.path).2 = behindMark descriptor.path.toList := by
  rw [splitQuery, List.span_eq_takeWhile_dropWhile, h.trim_eq, behindMark]
  cases descriptor.path.toList.dropWhile (· != '?') <;> rfl

/-- The pair that asks for a format. -/
def formatPairs (format : ContentFormat) : List (String × String) :=
  if format = .unspecified then [] else [("format", format.name)]

theorem parameter_eq_none_iff {format : ContentFormat} :
    format.parameter = none ↔ format = .unspecified := by
  cases format <;> simp [ContentFormat.parameter]

theorem formatPairs_of_parameter {format : ContentFormat} {name : String}
    (h : format.parameter = some name) :
    formatPairs format = pairs ("format=".toList ++ name.toList) := by
  cases format <;> cases h <;> decide +kernel

theorem elim_pairs_operationQuery {query : Option (List Char)} (format : ContentFormat)
    (hclean : ∀ text ∈ query, Url.Path.Clean text) :
    (operationQuery query format).elim [] pairs =
      query.elim [] pairs ++ formatPairs format := by
  have hgiven : (query.map fun query =>
      encode inQuery (query.filter (!Url.Path.isIgnored ·))) = query.map (encode inQuery) :=
    Option.map_congr fun text htext => by rw [Url.Path.filter_of_clean (hclean text htext)]
  have hpairs : (query.map (encode inQuery)).elim [] pairs = query.elim [] pairs := by
    cases query with
    | none => rfl
    | some query => exact Url.Form.pairs_encode query
  rw [operationQuery, hgiven, ← hpairs]
  generalize query.map (encode inQuery) = given
  cases hname : format.parameter with
  | none =>
    simp [formatPairs, parameter_eq_none_iff.mp hname]
  | some name =>
    rw [formatPairs_of_parameter hname]
    match given with
    | none => rfl
    | some [] => rfl
    | some (c :: rest) => exact Url.Form.pairs_append_cons (c :: rest) _

theorem isSome_operationQuery (query : Option (List Char)) (format : ContentFormat) :
    (operationQuery query format).isSome ↔ query.isSome ∨ format ≠ .unspecified := by
  rw [operationQuery]
  cases hname : format.parameter with
  | none => simp [parameter_eq_none_iff.mp hname]
  | some name =>
    have hformat : format ≠ .unspecified := fun h => by
      rw [parameter_eq_none_iff.mpr h] at hname
      cases hname
    simp only [hformat, ne_eq, not_false_eq_true, or_true, iff_true]
    split <;> rfl

/-- The query of an operation has the pairs that stand behind the question mark of the path, in
their order, and behind them the format, if there is one.  The URL of an operation has a question
mark exactly if the path has one or there is a format. -/
theorem operation_pairs {text : String} (hbase : BaseUrl.parse text = .ok base) (endpoint : String)
    (hpath : descriptor.Unbroken) :
    let url := base.operation endpoint descriptor
    url.query = behindMark url.text.toList ∧
      (behindMark url.text.toList).elim [] pairs =
        (behindMark descriptor.path.toList).elim [] pairs ++ formatPairs descriptor.format ∧
      ('?' ∈ url.text.toList ↔
        '?' ∈ descriptor.path.toList ∨ descriptor.format ≠ .unspecified) := by
  intro url
  have hread : behindMark url.text.toList = url.query := by
    rw [Url.text, String.toList_ofList]
    exact (legible_operation (legible_of_parse hbase) endpoint descriptor).behindMark_chars
  have hquery : url.query =
      operationQuery (behindMark descriptor.path.toList) descriptor.format := by
    rw [← splitQuery_snd hpath]
    exact operation_query base endpoint descriptor
  refine ⟨hread.symm, ?_, ?_⟩
  · rw [hread, hquery, elim_pairs_operationQuery]
    exact fun query hquery c hc => hpath.clean c (Url.mem_of_mem_behindMark hquery hc)
  · rw [← Url.isSome_behindMark, hread, hquery, isSome_operationQuery, Url.isSome_behindMark]

/-- Empty pieces, separators inside values, and texts that look like codes. -/
theorem operation_pairs_reserved :
    let descriptor : Descriptor :=
      ⟨none, .get, "/3/0/7?&pmin=5&&a=%4é%41+#'%%=?&b", .json, none, none⟩
    BaseUrl.parse "http://[::1]/api/" = .ok loopback ∧ descriptor.Unbroken ∧
      (behindMark (loopback.operation "dev?x=1" descriptor).text.toList).elim [] pairs =
        [("pmin", "5"), ("a", "%4éA #'%%=?"), ("b", ""), ("format", "JSON")] := by
  intro descriptor
  have hbase : BaseUrl.parse "http://[::1]/api/" = .ok loopback := by rfl
  have hpath : descriptor.Unbroken := by decide
  refine ⟨hbase, hpath, ?_⟩
  rw [(operation_pairs hbase "dev?x=1" hpath).2.1]
  decide +kernel

end BaseUrl

end Stimulus
