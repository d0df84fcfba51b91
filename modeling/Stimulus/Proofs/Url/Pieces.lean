import Stimulus.Proofs.Url.Reading
import Stimulus.Proofs.Url.Resource

/-! The resource path as it is written.  Its pieces between slashes are the segments behind the
endpoint, one for one, dots left out and everything else kept: empty pieces, and texts that look
encoded.  A slash in front makes no difference, and no piece leads back over the endpoint, since
the segments are read again as they are. -/

namespace Stimulus

open Url (pathText)
open Url.Path (NoDots Plain segmentsOf)
open Url.Percent (encode inSegment text?)

/-- Texts that are not dots are found again in the segments, in their order. -/
theorem map_text?_segmentsOf (texts : List (List Char)) :
    (segmentsOf texts).map text? =
      (texts.filter fun text => NoDots text).map fun text => some (String.ofList text) := by
  rw [segmentsOf, List.map_map]
  exact List.map_congr_left fun text _ => Url.Percent.text?_encode (by decide) text

/-! ### The slash in front -/

theorem Descriptor.Unbroken.relative {descriptor : Descriptor} {relative : String}
    (h : descriptor.Unbroken) (hpath : descriptor.path = "/" ++ relative) :
    Descriptor.Unbroken { descriptor with path := relative } :=
  fun c hc => h c (by simp [hpath, hc])

namespace BaseUrl

variable {base : BaseUrl} {endpoint relative : String} {descriptor : Descriptor}

theorem splitQuery_slash (h : descriptor.Unbroken) (hpath : descriptor.path = "/" ++ relative) :
    splitQuery descriptor.path = ('/' :: (splitQuery relative).1, (splitQuery relative).2) := by
  have htrim : Text.trim relative = relative := (h.relative hpath).trim_eq
  have hchars : descriptor.path.toList = '/' :: relative.toList := by
    rw [hpath, String.toList_append]
    rfl
  have hslash : ('/' != '?') = true := by decide
  rw [splitQuery, splitQuery, h.trim_eq, htrim, hchars]
  simp only [List.span_eq_takeWhile_dropWhile, List.takeWhile_cons, List.dropWhile_cons, hslash,
    if_true]
  cases relative.toList.dropWhile (· != '?') <;> rfl

theorem resourceSegments_slash {path : List Char} (h : path.head? ≠ some '/') :
    resourceSegments ('/' :: path) = resourceSegments path := by
  simp only [resourceSegments]
  split
  · exact absurd rfl h
  · rfl

/-- A resource path needs no slash in front. -/
theorem operation_slash (h : descriptor.Unbroken) (hpath : descriptor.path = "/" ++ relative)
    (hslash : relative.toList.head? ≠ some '/') :
    base.operation endpoint { descriptor with path := relative } =
      base.operation endpoint descriptor := by
  have htrim : Text.trim relative = relative := (h.relative hpath).trim_eq
  have hhead : (splitQuery relative).1.head? ≠ some '/' := by
    rw [splitQuery_eq, htrim]
    cases hchars : relative.toList with
    | nil => simp
    | cons c rest =>
      rw [hchars, List.head?_cons] at hslash
      rw [List.takeWhile_cons]
      split
      · exact hslash
      · simp
  simp only [operation, splitQuery_slash h hpath, resourceSegments_slash hhead]

/-! ### The path of an operation -/

/-- Behind the clients' list and the endpoint stand the pieces of the resource path as it is
written, each in a segment that decodes to it, without those that are dots.  The text of the path is
read again as these segments, so none leads back, and a slash in front of the resource path makes no
difference. -/
theorem operation_pieces {text : String} (hbase : BaseUrl.parse text = .ok base)
    (hendpoint : Plain endpoint.toList) (hpath : descriptor.Unbroken) :
    ∃ segments,
      (base.operation endpoint descriptor).path =
        base.clients.path ++ encode inSegment endpoint.toList :: segments ∧
      text? (encode inSegment endpoint.toList) = some endpoint ∧
      (segments.map text? = (descriptor.writtenPieces.filter fun piece => NoDots piece).map
        fun piece => some (String.ofList piece)) ∧
      Url.Path.parse (pathText (base.operation endpoint descriptor).path) =
        (base.operation endpoint descriptor).path ∧
      ∀ relative : String, descriptor.path = "/" ++ relative →
        relative.toList.head? ≠ some '/' →
        base.operation endpoint { descriptor with path := relative } =
          base.operation endpoint descriptor := by
  have hread := (legible_operation (legible_of_parse hbase) endpoint descriptor).path
  refine ⟨_, operation_path hendpoint hpath.clean, ?_, ?_, hread.parse_pathText,
    fun relative => operation_slash hpath⟩
  · rw [Url.Percent.text?_encode (by decide), String.ofList_toList]
  · rw [hpath.pieces_eq, map_text?_segmentsOf]

/-- Dots, codes of dots, backslashes and empty pieces, in a path that ends in a slash. -/
theorem operation_pieces_climbing :
    let descriptor : Descriptor :=
      ⟨none, .get, "//..%2e%2e/../%2E./\\..\\é#/./?a/b", .text, none, none⟩
    BaseUrl.parse "http://[::1]/api/" = .ok loopback ∧ Plain "dev/1".toList ∧
      descriptor.Unbroken ∧
      ∃ segments,
        (loopback.operation "dev/1" descriptor).path =
          "api".toList :: "clients".toList :: "dev%2F1".toList :: segments ∧
        segments.map text? =
          [some "", some "..%2e%2e", some "%2E.", some "\\..\\é#", some ""] := by
  intro descriptor
  have hbase : BaseUrl.parse "http://[::1]/api/" = .ok loopback := by rfl
  have hendpoint : Plain "dev/1".toList := by decide
  have hpath : descriptor.Unbroken := by decide
  obtain ⟨segments, hsegments, -, hpieces, -⟩ := operation_pieces hbase hendpoint hpath
  have hclients : loopback.clients.path = ["api".toList, "clients".toList] := by decide +kernel
  have hencoded : encode inSegment "dev/1".toList = "dev%2F1".toList := by decide +kernel
  refine ⟨hbase, hendpoint, hpath, segments, ?_, hpieces.trans (by decide +kernel)⟩
  rw [hsegments, hclients, hencoded]
  rfl

end BaseUrl

end Stimulus
