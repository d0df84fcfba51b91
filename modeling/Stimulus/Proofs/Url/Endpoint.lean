import Stimulus.Proofs.Url.Operation

/-! The endpoint in the URL of an operation.  `EndpointSegment` says that one segment right behind
the path of the clients' list stands for the endpoint.  It holds exactly for the endpoints that are
plain texts, and the URLs of two such endpoints differ. -/

namespace Stimulus

open Url.Path (Clean NoDots Plain Grown segmentsOf)
open Url.Percent (encode inSegment text?)

/-- A resource path without white space. -/
def Descriptor.Unbroken (descriptor : Descriptor) : Prop :=
  ∀ c ∈ descriptor.path.toList, Text.isBlank c = false

instance (descriptor : Descriptor) : Decidable descriptor.Unbroken :=
  List.decidableBAll _ descriptor.path.toList

theorem Descriptor.Unbroken.clean {descriptor : Descriptor} (h : descriptor.Unbroken) :
    Clean descriptor.path.toList := by
  intro c hc
  have hblank := h c hc
  by_contra hignored
  simp only [Url.Path.isIgnored, Bool.not_eq_false, Bool.or_eq_true, beq_iff_eq] at hignored
  rcases hignored with (rfl | rfl) | rfl <;> revert hblank <;> decide

namespace BaseUrl

variable {base : BaseUrl} {endpoint endpoint' : String} {descriptor descriptor' : Descriptor}

/-- One segment of the path, right behind the path of the clients' list, stands for the endpoint:
it has no delimiters of a URL, and decoding it gives the endpoint. -/
def EndpointSegment (base : BaseUrl) (endpoint : String) (descriptor : Descriptor) : Prop :=
  ∃ segment rest,
    (base.operation endpoint descriptor).path = base.clients.path ++ segment :: rest ∧
      (∀ c ∈ segment, c ≠ '/' ∧ c ≠ '?' ∧ c ≠ '#' ∧ c ≠ '\\') ∧ text? segment = some endpoint

/-- Whatever the endpoint and the path, a segment in the endpoint's place stands for a plain
text. -/
theorem plain_of_endpointSegment (h : EndpointSegment base endpoint descriptor) :
    Plain endpoint.toList := by
  obtain ⟨segment, rest, hpath, -, htext⟩ := h
  have hgrown : Grown base.clients.path.length (base.operation endpoint descriptor).path := by
    rw [operation_path_eq_foldl]
    exact (Grown.of_length_le (Nat.le_refl _)).foldl_push _
  obtain ⟨text, hplain, rfl⟩ := hgrown.plain_of_eq_append hpath (Nat.le_refl _)
  rw [Url.Percent.text?_encode (by decide)] at htext
  rw [← Option.some.inj htext]
  simpa using hplain

theorem endpointSegment_of_plain (hendpoint : Plain endpoint.toList)
    (hpath : Clean descriptor.path.toList) : EndpointSegment base endpoint descriptor := by
  refine ⟨_, _, operation_path hendpoint hpath,
    Url.Percent.not_mem_encode_inSegment endpoint.toList, ?_⟩
  rw [Url.Percent.text?_encode (by decide), String.ofList_toList]

/-- The tail of an operation's URL is empty or starts with a delimiter. -/
theorem tail_eq_nil_or_cons (descriptor : Descriptor) :
    descriptor.tail = [] ∨
      ∃ rest, descriptor.tail = '/' :: rest ∨ descriptor.tail = '?' :: rest := by
  rw [Descriptor.tail]
  cases segmentsOf descriptor.pieces with
  | cons segment segments => exact .inr ⟨_, .inl rfl⟩
  | nil =>
    cases operationQuery (splitQuery descriptor.path).2 descriptor.format with
    | none => exact .inl rfl
    | some query => exact .inr ⟨_, .inr rfl⟩

theorem endpoint_eq_of_text_eq (hendpoint : Plain endpoint.toList)
    (hendpoint' : Plain endpoint'.toList) (hpath : Clean descriptor.path.toList)
    (hpath' : Clean descriptor'.path.toList)
    (h : (base.operation endpoint descriptor).text = (base.operation endpoint' descriptor').text) :
    endpoint = endpoint' := by
  have hchars := String.ofList_injective h
  rw [operation_chars hendpoint hpath, operation_chars hendpoint' hpath'] at hchars
  simp only [List.append_assoc, List.append_cancel_left_eq, List.cons_append,
    List.cons.injEq, true_and] at hchars
  -- Both encoded endpoints end where the first delimiter stands.
  have hsegment (s rest : List Char) (hrest : rest = [] ∨ ∃ r, rest = '/' :: r ∨ rest = '?' :: r) :
      (encode inSegment s ++ rest).takeWhile (fun c => c ≠ '/' ∧ c ≠ '?') = encode inSegment s := by
    rw [List.takeWhile_append_of_pos]
    · rcases hrest with rfl | ⟨r, rfl | rfl⟩ <;> simp
    · intro c hc
      have hc := Url.Percent.not_mem_encode_inSegment s c hc
      simp [hc.1, hc.2.1]
  have hencoded := congrArg (List.takeWhile fun c => decide (c ≠ '/' ∧ c ≠ '?')) hchars
  rw [hsegment _ _ (tail_eq_nil_or_cons _), hsegment _ _ (tail_eq_nil_or_cons _)] at hencoded
  exact String.toList_inj.mp (Url.Percent.encode_injective (by decide) hencoded)

/-! ### Endpoints that are no plain texts -/

theorem operation_eq_of_push_eq
    (h : ∀ path, Url.Path.push path endpoint.toList = Url.Path.push path endpoint'.toList) :
    base.operation endpoint descriptor = base.operation endpoint' descriptor := by
  simp only [operation, join, Url.Path.extend, List.map_cons, List.foldl_cons, h]

/-- A tab at the end of a segment is lost. -/
theorem push_tab {text : List Char} (h : ¬Clean text) (path : List (List Char)) :
    Url.Path.push path (text ++ ['\t']) = Url.Path.push path text := by
  have hdots (given : List Char) (hgiven : ¬Clean given) :
      ¬(given = ['.'] ∨ given = ['.', '.']) := by
    rintro (rfl | rfl) <;> exact hgiven (by decide)
  have htab : ¬Clean (text ++ ['\t']) := fun hclean => h fun c hc => hclean c (by simp [hc])
  rw [Url.Path.push, Url.Path.push, if_neg (hdots _ h), if_neg (hdots _ htab)]
  simp [Url.Path.isIgnored]

/-- An endpoint that is no plain text shares its URLs with another one. -/
theorem exists_operation_eq (base : BaseUrl) (h : ¬Plain endpoint.toList) :
    ∃ other, other ≠ endpoint ∧
      ∀ descriptor, base.operation other descriptor = base.operation endpoint descriptor := by
  by_cases hclean : Clean endpoint.toList
  · have hdots : ¬NoDots endpoint.toList := fun hdots => h ⟨hclean, hdots⟩
    obtain ⟨other, hne, hother⟩ : ∃ other : String, other ≠ endpoint ∧ ¬NoDots other.toList := by
      by_cases hdot : endpoint = "."
      · exact ⟨"..", by rw [hdot]; decide, by decide⟩
      · exact ⟨".", Ne.symm hdot, by decide⟩
    refine ⟨other, hne, fun descriptor => operation_eq_of_push_eq fun path => ?_⟩
    rw [Url.Path.push_of_dots hother, Url.Path.push_of_dots hdots]
  · refine ⟨endpoint ++ "\t", fun heq => ?_,
      fun descriptor => operation_eq_of_push_eq fun path => ?_⟩
    · have hlength := congrArg (·.toList.length) heq
      simp at hlength
    · rw [String.toList_append]
      exact push_tab hclean path

/-! ### The endpoint rule -/

/-- Exactly the plain texts are endpoints that stand in one segment of their own, whatever the
entry.  Behind their segments stand those of the entry, and two of them have two URLs, whereas any
other endpoint shares its URLs with one that is not the same. -/
theorem endpointSegment_iff (base : BaseUrl) :
    (∀ (endpoint : String) (descriptor : Descriptor), descriptor.Unbroken →
      (EndpointSegment base endpoint descriptor ↔ Plain endpoint.toList)) ∧
    (∀ descriptor : Descriptor, descriptor.Unbroken →
      ∃ rest, ∀ endpoint : String, Plain endpoint.toList →
        (base.operation endpoint descriptor).path =
          base.clients.path ++ encode inSegment endpoint.toList :: rest) ∧
    (∀ (endpoint endpoint' : String) (descriptor descriptor' : Descriptor),
      Plain endpoint.toList → Plain endpoint'.toList →
      descriptor.Unbroken → descriptor'.Unbroken →
      (base.operation endpoint descriptor).text = (base.operation endpoint' descriptor').text →
        endpoint = endpoint') ∧
    (∀ endpoint : String, ¬Plain endpoint.toList → ∃ other, other ≠ endpoint ∧
      ∀ descriptor, base.operation other descriptor = base.operation endpoint descriptor) := by
  refine ⟨fun endpoint descriptor h => ⟨plain_of_endpointSegment, fun hplain => ?_⟩,
    fun descriptor h => ⟨_, fun endpoint hplain => operation_path hplain h.clean⟩, ?_,
    fun endpoint => exists_operation_eq base⟩
  · exact endpointSegment_of_plain hplain h.clean
  · intro endpoint endpoint' descriptor descriptor' hplain hplain' h h'
    exact endpoint_eq_of_text_eq hplain hplain' h.clean h'.clean

theorem endpointSegment_reserved :
    BaseUrl.parse "http://[::1]/api/" = .ok loopback ∧
      EndpointSegment loopback "dev 1?x/y%\\#é" ⟨none, .get, "/3/../0", .text, none, none⟩ := by
  exact ⟨by rfl, (((endpointSegment_iff loopback).1 _ _ (by decide)).mpr (by decide))⟩

/-- No segment stands for a dot, and one with a tab in its name is taken for another client. -/
theorem not_endpointSegment :
    BaseUrl.parse "http://[::1]/api/" = .ok loopback ∧
      ¬EndpointSegment loopback "." ⟨none, .get, "/3/0/0", .text, none, none⟩ ∧
      ¬EndpointSegment loopback "a\tb" ⟨none, .get, "/3/0/0", .text, none, none⟩ ∧
      (loopback.operation "." ⟨none, .get, "/3/0/0", .text, none, none⟩).text =
        "http://[::1]/api/clients/3/0/0?format=Text" ∧
      loopback.operation "a\tb" ⟨none, .get, "/3/0/0", .text, none, none⟩ =
        loopback.operation "ab" ⟨none, .get, "/3/0/0", .text, none, none⟩ := by
  refine ⟨by rfl, fun h => ?_, fun h => ?_, by decide +kernel, by decide +kernel⟩
  · exact absurd (plain_of_endpointSegment h) (by decide)
  · exact absurd (plain_of_endpointSegment h) (by decide)

end BaseUrl

end Stimulus
