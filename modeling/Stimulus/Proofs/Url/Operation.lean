import Mathlib.Data.List.TakeDrop
import Stimulus.BaseUrl
import Stimulus.Proofs.Text.Split
import Stimulus.Proofs.Url.Path

/-! The URLs of operations, taken apart.  Behind the URL of the clients' list stands a slash, the
endpoint in its encoded form, and a tail that depends on the entry alone. -/

namespace Stimulus

open Url (pathText queryText)
open Url.Path (Clean NoDots Plain closed segmentsOf)
open Url.Percent (encode inSegment)

/-! ### Pieces of a resource path -/

theorem Text.mem_of_mem_trim {s : String} {c : Char} (h : c ∈ (Text.trim s).toList) :
    c ∈ s.toList := by
  simp only [trim, trimBy, String.toList_ofList, List.mem_reverse] at h
  have h := (List.dropWhile_sublist _).mem h
  exact (List.dropWhile_sublist _).mem (List.mem_reverse.mp h)

namespace BaseUrl

theorem splitQuery_eq (path : String) :
    (splitQuery path).1 = (Text.trim path).toList.takeWhile (· != '?') := by
  rw [splitQuery, List.span_eq_takeWhile_dropWhile]
  split <;> simp_all

theorem mem_of_mem_resourceSegments {path piece : List Char} {c : Char}
    (hpiece : piece ∈ (resourceSegments path).map String.toList) (hc : c ∈ piece) : c ∈ path := by
  unfold resourceSegments at hpiece
  simp only [List.map_map, List.mem_map, Function.comp_apply, String.toList_ofList,
    exists_eq_right] at hpiece
  have hinner := mem_of_mem_splitOn hpiece hc
  split at hinner
  · exact .tail _ hinner
  · exact hinner

end BaseUrl

namespace Descriptor

/-- The pieces of the resource path between its slashes. -/
def pieces (descriptor : Descriptor) : List (List Char) :=
  (BaseUrl.resourceSegments (BaseUrl.splitQuery descriptor.path).1).map String.toList

theorem clean_pieces {descriptor : Descriptor} (h : Clean descriptor.path.toList) :
    ∀ piece ∈ descriptor.pieces, Clean piece := by
  intro piece hpiece c hc
  refine h c (Text.mem_of_mem_trim ?_)
  have hc := BaseUrl.mem_of_mem_resourceSegments hpiece hc
  rw [BaseUrl.splitQuery_eq] at hc
  exact (List.takeWhile_sublist _).mem hc

/-- What stands behind the endpoint in the URL of an operation. -/
def tail (descriptor : Descriptor) : List Char :=
  pathText (segmentsOf descriptor.pieces) ++
    queryText (BaseUrl.operationQuery (BaseUrl.splitQuery descriptor.path).2 descriptor.format)

end Descriptor

namespace BaseUrl

variable {base : BaseUrl} {endpoint : String} {descriptor : Descriptor}

/-- A root whose address is spelled out. -/
def loopback : BaseUrl :=
  ⟨⟨.http, "", none, .ipv6 [0, 0, 0, 0, 0, 0, 0, 1], none⟩, ["api".toList]⟩

theorem clients_path (base : BaseUrl) :
    base.clients.path = closed (Url.Path.dropOpenEnd base.path) ++ ["clients".toList] := by
  have hplain : Plain "clients".toList := by decide
  exact Url.Path.push_of_plain hplain

/-- The list of clients is never at the root. -/
theorem clients_path_ne (base : BaseUrl) : base.clients.path ≠ [[]] := by
  rw [clients_path]
  intro h
  have h := congrArg List.getLast? h
  simp at h

theorem operation_path_eq_foldl (base : BaseUrl) (endpoint : String) (descriptor : Descriptor) :
    (base.operation endpoint descriptor).path =
      (endpoint.toList :: descriptor.pieces).foldl Url.Path.push base.clients.path := by
  simp only [operation, join, clients, Url.Path.extend, List.map_cons, List.foldl_cons,
    List.map_nil, List.foldl_nil, Descriptor.pieces]

/-- The path of an operation: the endpoint is one segment behind the clients' list. -/
theorem operation_path (hendpoint : Plain endpoint.toList)
    (hpath : Clean descriptor.path.toList) :
    (base.operation endpoint descriptor).path =
      base.clients.path ++ encode inSegment endpoint.toList :: segmentsOf descriptor.pieces := by
  rw [operation_path_eq_foldl, List.foldl_cons, Url.Path.push_of_plain hendpoint,
    Url.Path.closed_of_ne base.clients_path_ne, Url.Path.foldl_push (descriptor.clean_pieces hpath)]
  · simp
  · simp [clients_path]

theorem operation_chars (hendpoint : Plain endpoint.toList)
    (hpath : Clean descriptor.path.toList) :
    (base.operation endpoint descriptor).chars =
      base.clients.chars ++ '/' :: encode inSegment endpoint.toList ++ descriptor.tail := by
  rw [Url.chars, operation_path hendpoint hpath]
  simp [Url.chars, Url.pathText, Url.queryText, Url.fragmentText, Descriptor.tail, operation,
    clients, join, url]

/-! ### Templates -/

theorem replaceFirst_append {old new rest : List Char} (hold : old ≠ []) :
    replaceFirst old new (old ++ rest) = new ++ rest := by
  obtain ⟨c, old, rfl⟩ := List.exists_cons_of_ne_nil hold
  have hfirst : (c :: old).isPrefixOf (c :: (old ++ rest)) := by
    rw [List.isPrefixOf_iff_prefix]
    exact List.prefix_append (c :: old) rest
  rw [List.cons_append, replaceFirst, if_pos hfirst]
  simp

/-- The replacement meets the placeholder behind the clients' list, whatever the root, the path and
the query hold: the template is the URL of an operation with the placeholder as it is. -/
theorem template_eq (hpath : Clean descriptor.path.toList) :
    base.template descriptor =
      base.clients.text ++ "/" ++ placeholder ++ String.ofList descriptor.tail := by
  have hplain : Plain placeholder.toList := by decide
  have hclients : base.clients.chars ++ ['/'] ++ encode inSegment placeholder.toList ≠ [] := by simp
  have hchars : (base.operation placeholder descriptor).chars =
      base.clients.chars ++ ['/'] ++ encode inSegment placeholder.toList ++ descriptor.tail := by
    rw [operation_chars hplain hpath]
    simp
  simp only [template, hchars, replaceFirst_append hclients]
  apply String.toList_inj.mp
  simp [Url.text]

end BaseUrl

end Stimulus
