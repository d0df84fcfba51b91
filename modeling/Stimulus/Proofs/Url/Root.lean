import Stimulus.Proofs.Url.Reread
import Stimulus.Proofs.Url.Resource

/-! The root of an API, read again from its own text.  That never fails, and changes at most the end
of the path: reading drops one slash there, so a root is read as itself exactly if its path does not
end in one more. -/

namespace Stimulus

namespace Url.Path

variable {path : List (List Char)}

/-! ### Ends of paths -/

theorem pathText_append (front back : List (List Char)) :
    pathText (front ++ back) = pathText front ++ pathText back :=
  List.flatMap_append

theorem pathText_concat (front : List (List Char)) (last : List Char) :
    pathText (front ++ [last]) = pathText front ++ '/' :: last := by
  rw [pathText_append]
  simp [pathText]

/-- The text of a path does not end in `n` slashes, unless they are all of it. -/
def EndsWithin (n : Nat) (path : List (List Char)) : Prop :=
  List.replicate n '/' <:+ pathText path → pathText path = List.replicate n '/'

instance (n : Nat) (path : List (List Char)) : Decidable (EndsWithin n path) :=
  inferInstanceAs (Decidable (_ → _))

namespace Settled

theorem slash_not_mem (h : Settled path) : ∀ segment ∈ path, '/' ∉ segment := by
  intro segment hsegment hslash
  exact absurd ((h.fixed segment hsegment).written _ hslash).2 (by decide)

/-- The text of a path ends in a slash if the last segment is empty. -/
theorem slash_suffix_iff (h : Settled path) :
    ['/'] <:+ pathText path ↔ path.getLast? = some [] := by
  rcases List.eq_nil_or_concat' path with rfl | ⟨front, last, rfl⟩
  · exact absurd rfl h.nonempty
  · have hlast : '/' ∉ last := h.slash_not_mem last (by simp)
    rw [List.getLast?_concat, Option.some.injEq, pathText_concat]
    constructor
    · intro hsuffix
      by_contra hne
      have hend : ['/'] <:+ last :=
        List.suffix_of_suffix_length_le hsuffix
          ((List.suffix_cons '/' last).trans (List.suffix_append _ _))
          (List.length_pos_iff.mpr hne)
      exact hlast (hend.subset (.head _))
    · rintro rfl
      exact List.suffix_append _ _

/-- Only the root has a slash for its text. -/
theorem pathText_eq_slash_iff (h : Settled path) : pathText path = ['/'] ↔ path = [[]] := by
  constructor
  · intro htext
    rw [← h.parse_pathText, htext]
    rfl
  · rintro rfl
    rfl

/-- Nothing is dropped from a path that does not end in a slash, or is one. -/
theorem dropOpenEnd_eq_self_iff (h : Settled path) :
    Path.dropOpenEnd path = path ↔ EndsWithin 1 path := by
  rw [EndsWithin, List.replicate_one, h.slash_suffix_iff, h.pathText_eq_slash_iff, Path.dropOpenEnd]
  split
  · rename_i hopen
    refine ⟨fun heq => ?_, fun hroot => ?_⟩
    · have hlength := congrArg List.length heq
      rw [List.length_dropLast] at hlength
      omega
    · rw [hroot hopen.2] at hopen
      exact absurd hopen.1 (by decide)
  · rename_i hshut
    refine ⟨fun _ hlast => ?_, fun _ => rfl⟩
    obtain ⟨segment, rest, rfl⟩ := List.exists_cons_of_ne_nil h.nonempty
    cases rest with
    | nil => rw [show segment = [] from Option.some.inj hlast]
    | cons second rest => exact absurd ⟨by simp, hlast⟩ hshut

/-- A path that loses no slash ends in none, or is one. -/
theorem endsWithin_of_one {n : Nat} (h : EndsWithin 1 path) (hn : 0 < n) : EndsWithin n path := by
  intro hslashes
  obtain ⟨n, rfl⟩ : ∃ m, n = m + 1 := ⟨n - 1, by omega⟩
  have htext : pathText path = ['/'] := by
    refine h (List.IsSuffix.trans ?_ hslashes)
    rw [List.replicate_one, List.replicate_succ']
    exact List.suffix_append _ _
  rw [htext] at hslashes ⊢
  have hlength := hslashes.length_le
  rw [List.length_replicate, List.length_singleton] at hlength
  rw [show n = 0 by omega]
  rfl

/-- One slash at the end of a path is dropped. -/
theorem endsWithin_dropOpenEnd_iff {n : Nat} (h : Settled path) (hn : 0 < n) :
    EndsWithin n (Path.dropOpenEnd path) ↔ EndsWithin (n + 1) path := by
  by_cases hopen : 1 < path.length ∧ path.getLast? = some []
  · obtain ⟨front, rfl⟩ : ∃ front, path = front ++ [[]] := by
      obtain ⟨front, hfront⟩ := List.singleton_suffix_iff_getLast?_eq_some.mpr hopen.2
      exact ⟨front, hfront.symm⟩
    have hdrop : Path.dropOpenEnd (front ++ [[]]) = front := by
      rw [Path.dropOpenEnd, if_pos hopen, List.dropLast_concat]
    have hsuffix : List.replicate n '/' ++ ['/'] <:+ pathText front ++ ['/'] ↔
        List.replicate n '/' <:+ pathText front := by
      rw [List.suffix_concat_iff]
      refine ⟨?_, fun h => .inr ⟨_, rfl, h⟩⟩
      rintro (hnil | ⟨t, ht, hsuffix⟩)
      · cases List.append_eq_nil_iff.mp hnil |>.2
      · rwa [List.append_cancel_right ht]
    rw [hdrop, EndsWithin, EndsWithin, List.replicate_succ', pathText_concat, hsuffix,
      List.append_cancel_right_eq]
  · have hdrop : Path.dropOpenEnd path = path := if_neg hopen
    have hone := h.dropOpenEnd_eq_self_iff.mp hdrop
    rw [hdrop]
    exact ⟨fun _ => endsWithin_of_one hone (by omega), fun _ => endsWithin_of_one hone hn⟩

/-- A segment pushed on a path shows whether a slash was dropped from its end before. -/
theorem push_dropOpenEnd_iff (h : Settled path) {text : List Char} (htext : Plain text) :
    Path.push (Path.dropOpenEnd path) text = Path.push path text ↔
      Path.dropOpenEnd path = path := by
  refine ⟨fun heq => ?_, fun heq => by rw [heq]⟩
  rw [push_of_plain htext, push_of_plain htext, List.append_cancel_right_eq] at heq
  rw [Path.dropOpenEnd] at heq ⊢
  split
  · rename_i hopen
    have hlength : (closed path.dropLast).length ≤ path.dropLast.length := by
      rw [closed]
      split <;> simp
    have hne : path ≠ [[]] := by
      rintro rfl
      exact absurd hopen.1 (by decide)
    rw [if_pos hopen, closed_of_ne hne] at heq
    rw [heq, List.length_dropLast] at hlength
    omega
  · rfl

end Settled

end Url.Path

namespace BaseUrl

variable {text : String} {base : BaseUrl} {url : Url}

/-- A root is read as a URL of its own origin. -/
theorem reread_of_parse (h : BaseUrl.parse text = .ok base) :
    base.origin.reread = .ok base.origin := by
  obtain ⟨url, hurl, horigin, -⟩ := exists_url_of_parse h
  obtain ⟨scheme, rest, hread⟩ := Url.exists_readWeb_of_parse hurl
  rw [horigin]
  exact (Url.written_of_readWeb hread).reread_eq

/-- A root is read again from its text, its path without one more slash at the end. -/
theorem parse_text (h : BaseUrl.parse text = .ok base) :
    BaseUrl.parse base.text = .ok { base with path := Url.Path.dropOpenEnd base.path } := by
  have hread : Url.parse base.text =
      base.origin.reread.map fun origin => .web (base.url.withOrigin origin) :=
    (legible_of_parse h).parse_text
  rw [reread_of_parse h] at hread
  rw [BaseUrl.parse, BaseUrl.read, hread]
  rfl

/-- Two roots of one origin have the same URLs if they have the same one for the list of clients. -/
theorem operation_eq_of_clients_eq {other : BaseUrl} (h : other.clients = base.clients)
    (endpoint : String) (descriptor : Descriptor) :
    other.operation endpoint descriptor = base.operation endpoint descriptor := by
  have horigin : other.origin = base.origin := congrArg Url.origin h
  have hpath : (other.operation endpoint descriptor).path =
      (base.operation endpoint descriptor).path := by
    rw [operation_path_eq_foldl, operation_path_eq_foldl, h]
  simp only [operation, join, url, horigin, Url.mk.injEq, true_and, and_true] at hpath ⊢
  exact hpath

/-- The clients and the operations have the same URLs under two roots. -/
structure Agree (base other : BaseUrl) : Prop where
  clients : other.clients = base.clients
  operation : ∀ endpoint descriptor,
    other.operation endpoint descriptor = base.operation endpoint descriptor

/-- Roots that differ in their ends have the same URLs if nothing is left to be dropped. -/
theorem agree_dropOpenEnd_iff (h : Url.Path.Settled base.path) :
    base.Agree { base with path := Url.Path.dropOpenEnd base.path } ↔
      Url.Path.EndsWithin 2 base.path := by
  have hplain : Url.Path.Plain "clients".toList := by decide
  have hclients : ({ base with path := Url.Path.dropOpenEnd base.path } : BaseUrl).clients =
      base.clients ↔ Url.Path.EndsWithin 2 base.path := by
    have hpush : ({ base with path := Url.Path.dropOpenEnd base.path } : BaseUrl).clients =
        base.clients ↔
        Url.Path.push (Url.Path.dropOpenEnd (Url.Path.dropOpenEnd base.path)) "clients".toList =
          Url.Path.push (Url.Path.dropOpenEnd base.path) "clients".toList := by
      simp [clients, join, BaseUrl.url, Url.Path.extend]
    rw [hpush, h.dropOpenEnd.push_dropOpenEnd_iff hplain, h.dropOpenEnd.dropOpenEnd_eq_self_iff,
      h.endsWithin_dropOpenEnd_iff (by decide)]
  exact ⟨fun h => hclients.mp h.clients,
    fun h => ⟨hclients.mpr h, operation_eq_of_clients_eq (hclients.mpr h)⟩⟩

/-- A text that is read as a root gives one whose own text is read again.  With at most one slash at
the end of the path that was read, the path of the root does not end in a slash, and the root is
read as itself; with two at most, what is read has the same URLs as the root.  With more, it is not
so. -/
theorem parse_stable_iff (h : BaseUrl.parse text = .ok base) :
    ∃ url again, Url.parse text = .ok (.web url) ∧ BaseUrl.parse base.text = .ok again ∧
      (Url.Path.EndsWithin 1 base.path ↔ Url.Path.EndsWithin 2 url.path) ∧
      (again = base ↔ Url.Path.EndsWithin 2 url.path) ∧
      (base.Agree again ↔ Url.Path.EndsWithin 3 url.path) := by
  obtain ⟨url, hurl, -, hpath⟩ := exists_url_of_parse h
  have hsettled : Url.Path.Settled url.path := by
    obtain ⟨scheme, rest, hread⟩ := Url.exists_readWeb_of_parse hurl
    exact (Url.legible_of_readWeb hread).2
  have hbase : Url.Path.Settled base.path := (legible_of_parse h).path
  have hone : Url.Path.EndsWithin 1 base.path ↔ Url.Path.EndsWithin 2 url.path := by
    rw [hpath]
    exact hsettled.endsWithin_dropOpenEnd_iff (by decide)
  have hsame : ({ base with path := Url.Path.dropOpenEnd base.path } : BaseUrl) = base ↔
      Url.Path.dropOpenEnd base.path = base.path := by
    obtain ⟨origin, path⟩ := base
    simp
  refine ⟨url, _, hurl, parse_text h, hone, ?_, ?_⟩
  · rw [hsame, hbase.dropOpenEnd_eq_self_iff, hone]
  · rw [agree_dropOpenEnd_iff hbase, hpath]
    exact hsettled.endsWithin_dropOpenEnd_iff (by decide)

theorem parse_stable_slash :
    BaseUrl.parse "http://[::1]/api/" = .ok loopback ∧
      Url.Path.EndsWithin 1 loopback.path ∧ BaseUrl.parse loopback.text = .ok loopback := by
  have hparse : BaseUrl.parse "http://[::1]/api/" = .ok loopback := by rfl
  obtain ⟨url, again, hurl, hagain, hshut, hsame, -⟩ := parse_stable_iff hparse
  have hread : Url.parse "http://[::1]/api/" =
      .ok (.web ⟨loopback.origin, ["api".toList, []], none, none⟩) := by rfl
  rw [hurl] at hread
  cases hread
  have hends : Url.Path.EndsWithin 2 ["api".toList, []] := by decide
  rw [hsame.mpr hends] at hagain
  exact ⟨hparse, hshut.mpr hends, hagain⟩

/-- Of two slashes at the end one is left, and of three two, so that the list of clients is looked
for at two places. -/
theorem not_parse_stable :
    let two : BaseUrl := { loopback with path := ["api".toList, []] }
    let three : BaseUrl := { loopback with path := ["api".toList, [], []] }
    BaseUrl.parse "http://[::1]/api//" = .ok two ∧ two.text = "http://[::1]/api/" ∧
      ¬Url.Path.EndsWithin 1 two.path ∧ BaseUrl.parse two.text = .ok loopback ∧ loopback ≠ two ∧
      BaseUrl.parse "http://[::1]/api///" = .ok three ∧ BaseUrl.parse three.text = .ok two ∧
      three.clients.text = "http://[::1]/api//clients" ∧
      two.clients.text = "http://[::1]/api/clients" := by
  refine ⟨by rfl, by decide +kernel, by decide, by rfl, by decide, by rfl, by rfl,
    by decide +kernel, by decide +kernel⟩

end BaseUrl

end Stimulus
