import Stimulus.Proofs.Url.Endpoint

/-! The resource that an entry names.  The path of an operation goes on behind the endpoint with
the pieces of the resource path, without those that are dots.  The check of an entry takes two texts
for empty paths and lets every other pass, so a path of slashes and dots, or of a query alone,
makes a request for the client itself. -/

namespace Stimulus

open Url.Path (NoDots Plain segmentsOf)
open Url.Percent (encode inSegment)

/-- A path in front of its first question mark, without a slash at its own front. -/
def relativePath (path : List Char) : List Char :=
  match path.takeWhile (· != '?') with
  | '/' :: rest => rest
  | front => front

namespace Descriptor

variable {descriptor : Descriptor}

/-- Between its slashes, and before its first question mark, the path has a piece that is neither
empty nor dots. -/
def NamesResource (descriptor : Descriptor) : Prop :=
  ∃ piece ∈ (descriptor.path.toList.takeWhile (· != '?')).splitOn '/', piece ≠ [] ∧ NoDots piece

instance (descriptor : Descriptor) : Decidable descriptor.NamesResource :=
  List.decidableBEx _ _

theorem unbroken_of_problems_eq_nil (h : descriptor.problems = []) : descriptor.Unbroken := by
  obtain ⟨hpath, -⟩ := List.append_eq_nil_iff.mp h
  obtain ⟨-, hblank⟩ := List.append_eq_nil_iff.mp hpath
  intro c hc
  by_contra hc'
  have hany : descriptor.path.toList.any Text.isBlank = true :=
    List.any_eq_true.mpr ⟨c, hc, by simpa using hc'⟩
  rw [if_pos hany] at hblank
  cases hblank

theorem Unbroken.trim_eq (h : descriptor.Unbroken) :
    Text.trim descriptor.path = descriptor.path := by
  have hkeep (text : List Char) (htext : ∀ c ∈ text, Text.isBlank c = false) :
      text.dropWhile Text.isBlank = text := by
    cases text with
    | nil => rfl
    | cons c text => rw [List.dropWhile_cons, if_neg (by simp [htext c (.head _)])]
  have hreverse : ∀ c ∈ descriptor.path.toList.reverse, Text.isBlank c = false :=
    fun c hc => h c (List.mem_reverse.mp hc)
  rw [Text.trim, Text.trimBy, hkeep _ h, hkeep _ hreverse, List.reverse_reverse,
    String.ofList_toList]

/-- The pieces between the slashes of a resource path, as it is written. -/
def writtenPieces (descriptor : Descriptor) : List (List Char) :=
  (relativePath descriptor.path.toList).splitOn '/'

theorem Unbroken.pieces_eq (h : descriptor.Unbroken) :
    descriptor.pieces = descriptor.writtenPieces := by
  have hplain (texts : List (List Char)) :
      (texts.map String.ofList).map String.toList = texts := by
    simp [Function.comp_def]
  rw [pieces, BaseUrl.splitQuery_eq, h.trim_eq]
  exact hplain descriptor.writtenPieces

/-- The slash that a path starts with makes one more empty piece. -/
theorem Unbroken.mem_pieces_iff (h : descriptor.Unbroken) {piece : List Char}
    (hpiece : piece ≠ []) :
    piece ∈ descriptor.pieces ↔
      piece ∈ (descriptor.path.toList.takeWhile (· != '?')).splitOn '/' := by
  rw [h.pieces_eq, writtenPieces, relativePath]
  split
  · rename_i hslash
    rw [hslash, List.splitOn, List.splitOn, List.splitOnP_cons_eq_if_modifyHead, if_pos (by rfl)]
    simp [hpiece]
  · rfl

end Descriptor

namespace BaseUrl

variable {base : BaseUrl} {endpoint : String} {descriptor : Descriptor}

theorem exists_segment_iff (h : descriptor.Unbroken) :
    (∃ segment ∈ segmentsOf descriptor.pieces, segment ≠ []) ↔ descriptor.NamesResource := by
  constructor
  · rintro ⟨segment, hsegment, hne⟩
    obtain ⟨piece, hpiece, rfl⟩ := List.mem_map.mp hsegment
    obtain ⟨hpiece, hdots⟩ := List.mem_filter.mp hpiece
    have hempty : piece ≠ [] := by
      rintro rfl
      exact hne rfl
    exact ⟨piece, (h.mem_pieces_iff hempty).mp hpiece, hempty, by simpa using hdots⟩
  · rintro ⟨piece, hpiece, hempty, hdots⟩
    refine ⟨encode inSegment piece, List.mem_map_of_mem ?_, ?_⟩
    · exact List.mem_filter.mpr ⟨(h.mem_pieces_iff hempty).mpr hpiece, by simpa using hdots⟩
    · obtain ⟨c, rest, rfl⟩ := List.exists_cons_of_ne_nil hempty
      exact Url.Path.encode_ne_nil c rest

/-- The request of an entry without problems goes to a resource below the client, and not to the
client itself, exactly if the path names one. -/
theorem operation_resource_iff (base : BaseUrl) (hproblems : descriptor.problems = [])
    (hendpoint : Plain endpoint.toList) :
    ∃ resource,
      (base.operation endpoint descriptor).path =
        base.clients.path ++ encode inSegment endpoint.toList :: resource ∧
      ((∃ segment ∈ resource, segment ≠ []) ↔ descriptor.NamesResource) := by
  have hunbroken := Descriptor.unbroken_of_problems_eq_nil hproblems
  exact ⟨_, operation_path hendpoint hunbroken.clean, exists_segment_iff hunbroken⟩

theorem operation_resource_relative :
    let descriptor : Descriptor := ⟨none, .delete, ".//..a?b", .unspecified, none, none⟩
    BaseUrl.parse "http://[::1]/api/" = .ok loopback ∧ descriptor.problems = [] ∧
      ∃ resource,
        (loopback.operation "dev 1" descriptor).path =
          loopback.clients.path ++ "dev%201".toList :: resource ∧
        ∃ segment ∈ resource, segment ≠ [] := by
  intro descriptor
  have hproblems : descriptor.problems = [] := by decide
  obtain ⟨resource, hpath, hresource⟩ :=
    operation_resource_iff loopback hproblems (show Plain "dev 1".toList by decide)
  have hencoded : encode inSegment "dev 1".toList = "dev%201".toList := by decide +kernel
  rw [hencoded] at hpath
  exact ⟨by rfl, hproblems, resource, hpath, hresource.mpr (by decide)⟩

/-- A deletion of the client itself passes the check, with a path of a query, of slashes or of
dots. -/
theorem not_operation_resource :
    let entry (path : String) : Descriptor := ⟨none, .delete, path, .unspecified, none, none⟩
    BaseUrl.parse "http://[::1]/api/" = .ok loopback ∧ Plain "dev".toList ∧
      (entry "/?x=1").problems = [] ∧ (entry "//").problems = [] ∧ (entry "/.").problems = [] ∧
      (¬∃ resource,
        (loopback.operation "dev" (entry "/?x=1")).path =
          loopback.clients.path ++ encode inSegment "dev".toList :: resource ∧
        ∃ segment ∈ resource, segment ≠ []) ∧
      (loopback.operation "dev" (entry "/?x=1")).text = "http://[::1]/api/clients/dev/?x=1" ∧
      (loopback.operation "dev" (entry "//")).text = "http://[::1]/api/clients/dev//" ∧
      (loopback.operation "dev" (entry "/.")).text = "http://[::1]/api/clients/dev" := by
  intro entry
  refine ⟨by rfl, by decide, by decide, by decide, by decide, ?_, by decide +kernel,
    by decide +kernel, by decide +kernel⟩
  rintro ⟨resource, hpath, segment, hsegment, hne⟩
  have hactual : (loopback.operation "dev" (entry "/?x=1")).path =
      loopback.clients.path ++ encode inSegment "dev".toList :: [[]] := by decide +kernel
  rw [hactual] at hpath
  have hresource : [[]] = resource := by simpa using hpath
  rw [← hresource, List.mem_singleton] at hsegment
  exact hne hsegment

end BaseUrl

end Stimulus
