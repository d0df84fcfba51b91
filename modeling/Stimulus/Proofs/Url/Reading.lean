import Mathlib.Data.List.TakeWhile
import Stimulus.Http.Message
import Stimulus.Exchange.Operation
import Stimulus.Proofs.Url.Authority

/-! Reading the text of a URL again.  Whatever is read of the authority, the path, the query and the
fragment are those of the URL.  The URLs under a root share its authority, so they are all read as
URLs of one origin, the one that the text of the root is read with. -/

namespace Stimulus

theorem span_append_cons {α : Type} {p : α → Bool} {front rest : List α} {a : α}
    (hfront : ∀ x ∈ front, p x = true) (ha : p a = false) :
    (front ++ a :: rest).span p = (front, a :: rest) := by
  rw [List.span_eq_takeWhile_dropWhile, List.takeWhile_append_of_pos hfront,
    List.dropWhile_append_of_pos hfront]
  simp [ha]

theorem span_eq_self {α : Type} {p : α → Bool} {items : List α} (h : ∀ x ∈ items, p x = true) :
    items.span p = (items, []) := by
  rw [List.span_eq_takeWhile_dropWhile, List.takeWhile_eq_self_iff.mpr h,
    List.dropWhile_eq_nil_iff.mpr h]

namespace Url

/-- A URL whose text shows where its parts begin and end. -/
structure Legible (url : Url) : Prop where
  origin : url.origin.Legible
  path : Path.Settled url.path
  query : ∀ query ∈ url.query, ∀ c ∈ query, Percent.inQuery c = false
  fragment : url.fragment = none

/-- The URL with another origin. -/
def withOrigin (url : Url) (origin : Origin) : Url :=
  { url with origin }

/-- The origin that the text of an origin names. -/
def Origin.reread (origin : Origin) : Except Fault Origin := do
  let { user, password, host, port } ← readAuthority true origin.authority
  if host.isEmpty then .error .emptyHost
  else
    let host ← Host.parse host
    let port ← readPort (port.getD [])
    return {
      scheme := origin.scheme
      user
      password
      host
      port := port.filter (· != origin.scheme.defaultPort) }

/-! ### Parts -/

theorem strip_eq_self {text : List Char} (h : ∀ c ∈ text, 0x20 < c.toNat) : strip text = text := by
  have hmargin {text : List Char} (h : ∀ c ∈ text, 0x20 < c.toNat) :
      text.dropWhile isMargin = text := by
    rw [List.dropWhile_eq_self_iff]
    intro hlength
    have := h _ (List.getElem_mem hlength)
    simp only [isMargin, decide_eq_true_eq]
    omega
  have hkept : text.filter (!Path.isIgnored ·) = text := by
    refine List.filter_eq_self.mpr fun c hc => ?_
    have hvisible := h c hc
    by_contra hignored
    simp only [Path.isIgnored, Bool.not_eq_true', Bool.not_eq_false, Bool.or_eq_true,
      beq_iff_eq] at hignored
    rcases hignored with (rfl | rfl) | rfl <;> exact absurd hvisible (by decide)
  rw [strip, hmargin h, hmargin (by simpa using h), List.reverse_reverse, hkept]

theorem splitScheme?_name (scheme : Scheme) (rest : List Char) :
    splitScheme? (scheme.name.toList ++ ':' :: rest) = some (scheme.name, rest) := by
  cases scheme <;> rfl

theorem splitTail_queryText {query : Option (List Char)}
    (h : ∀ text ∈ query, ∀ c ∈ text, Percent.inQuery c = false) :
    splitTail (queryText query) = (query, none) := by
  cases query with
  | none => rfl
  | some query =>
    have hkept : ∀ c ∈ query, Percent.inQuery c = false := h query rfl
    have hhash : ∀ c ∈ '?' :: query, (c != '#') = true := by
      intro c hc
      rcases List.mem_cons.mp hc with rfl | hc
      · decide
      · have hset := hkept c hc
        rw [bne_iff_ne]
        rintro rfl
        exact absurd hset (by decide)
    simp only [splitTail, queryText, span_eq_self hhash, Percent.encode_eq_self hkept]

namespace Legible

variable {url : Url}

theorem pathText_eq_cons (h : url.Legible) : ∃ rest, pathText url.path = '/' :: rest :=
  ⟨_, Path.pathText_eq h.path.nonempty⟩

theorem mem_pathText {c : Char} (h : url.Legible) (hc : c ∈ pathText url.path) :
    Percent.inPath c = false := by
  obtain ⟨segment, hsegment, hc⟩ := List.mem_flatMap.mp hc
  rcases List.mem_cons.mp hc with rfl | hc
  · decide
  · exact ((h.path.fixed segment hsegment).written c hc).1

theorem chars_eq (h : url.Legible) :
    url.chars = url.origin.scheme.name.toList ++
      ':' :: '/' :: '/' :: (url.origin.authority ++ (pathText url.path ++ queryText url.query)) := by
  simp [chars, Origin.text_eq, fragmentText, h.fragment]

/-- Every character of the text is visible. -/
theorem lt_of_mem_chars {c : Char} (h : url.Legible) (hc : c ∈ url.chars) : 0x20 < c.toNat := by
  have hscheme : ∀ scheme : Scheme, ∀ c ∈ scheme.name.toList, 0x20 < c.toNat := by
    intro scheme
    cases scheme <;> simp [Scheme.name]
  rw [h.chars_eq] at hc
  simp only [List.mem_append, List.mem_cons] at hc
  rcases hc with hc | rfl | rfl | rfl | hc | hc | hc
  · exact hscheme _ c hc
  · decide
  · decide
  · decide
  · exact (h.origin.solid c hc).1
  · exact Percent.lt_of_inPath (h.mem_pathText hc)
  · cases hquery : url.query with
    | none => simp [hquery, queryText] at hc
    | some query =>
      rw [hquery] at hc
      rcases List.mem_cons.mp hc with rfl | hc
      · decide
      · exact Percent.lt_of_inQuery (h.query query hquery c hc)

theorem readWeb_eq (h : url.Legible) :
    readWeb url.origin.scheme
        (url.origin.authority ++ (pathText url.path ++ queryText url.query)) =
      url.origin.reread.map url.withOrigin := by
  obtain ⟨inner, hinner⟩ := h.pathText_eq_cons
  have hauthority : (url.origin.authority ++ (pathText url.path ++ queryText url.query)).span
      (!endsAuthority true ·) = (url.origin.authority, pathText url.path ++ queryText url.query) := by
    rw [hinner]
    refine span_append_cons (fun c hc => ?_) (by decide)
    simp [(h.origin.solid c hc).2]
  have hpath : (pathText url.path ++ queryText url.query).span (fun c => c != '?' && c != '#') =
      (pathText url.path, queryText url.query) := by
    have hkept : ∀ c ∈ pathText url.path, (c != '?' && c != '#') = true := by
      intro c hc
      have hset := h.mem_pathText hc
      rw [Bool.and_eq_true, bne_iff_ne, bne_iff_ne]
      refine ⟨?_, ?_⟩ <;> rintro rfl <;> exact absurd hset (by decide)
    cases url.query with
    | none => simpa [queryText] using span_eq_self hkept
    | some query => exact span_append_cons hkept (by decide)
  have hopen : (pathText url.path ++ queryText url.query).isEmpty = false := by
    rw [hinner]
    rfl
  obtain ⟨origin, path, query, fragment⟩ := url
  obtain rfl : fragment = none := h.fragment
  simp only [readWeb, hauthority, hopen, hpath, splitTail_queryText h.query,
    h.path.parse_pathText, Origin.reread, Bool.not_false]
  cases readAuthority true origin.authority with
  | error fault => rfl
  | ok authority =>
    simp only [bind, Except.bind]
    split
    · rfl
    · cases Host.parse authority.host with
      | error fault => rfl
      | ok host => cases readPort (authority.port.getD []) <;> rfl

/-- A URL is read from its text, with the origin that the text names. -/
theorem parse_text (h : url.Legible) :
    Url.parse url.text = url.origin.reread.map fun origin => .web (url.withOrigin origin) := by
  have hslash : ∀ c ∈ url.origin.authority, isSlash c = false := by
    intro c hc
    have hends := (h.origin.solid c hc).2
    simp only [endsAuthority, Bool.or_eq_false_iff, Bool.true_and] at hends
    simp [isSlash, hends]
  obtain ⟨first, rest, hfirst⟩ := List.exists_cons_of_ne_nil h.origin.nonempty
  have hdrop : ('/' :: '/' ::
      (url.origin.authority ++ (pathText url.path ++ queryText url.query))).dropWhile isSlash =
      url.origin.authority ++ (pathText url.path ++ queryText url.query) := by
    have hfirst' : isSlash first = false := hslash first (by simp [hfirst])
    have hsep : isSlash '/' = true := by decide
    simp [hfirst, hsep, hfirst']
  have hfamily : Family.ofName url.origin.scheme.name = .web url.origin.scheme := by
    cases url.origin.scheme <;> rfl
  rw [Url.parse, Url.text, String.toList_ofList, strip_eq_self fun c hc => h.lt_of_mem_chars hc,
    h.chars_eq, splitScheme?_name]
  simp only [hfamily, hdrop, h.readWeb_eq]
  cases url.origin.reread <;> rfl

end Legible

theorem exists_readWeb_of_parse {text : String} {url : Url} (h : parse text = .ok (.web url)) :
    ∃ scheme rest, readWeb scheme rest = .ok url := by
  have hmap {α : Type} {result : Except Fault α} {f : α → Reading}
      (hresult : result.map f = .ok (.web url)) :
      ∃ value, result = .ok value ∧ f value = .web url := by
    cases result with
    | error fault => cases hresult
    | ok value => exact ⟨value, rfl, Except.ok.inj hresult⟩
  unfold parse at h
  split at h
  · cases h
  · split at h
    · obtain ⟨read, hread, heq⟩ := hmap h
      cases heq
      exact ⟨_, _, hread⟩
    · obtain ⟨_, _, heq⟩ := hmap h
      cases heq
    · obtain ⟨_, _, heq⟩ := hmap h
      cases heq
    · split at h
      · obtain ⟨_, _, heq⟩ := hmap h
        cases heq
      · cases h

end Url

/-! ### URLs under a root -/

namespace BaseUrl

open Url.Percent (inQuery)

theorem inQuery_of_operationQuery {given : Option (List Char)} {format : ContentFormat}
    {query : List Char} {c : Char} (hquery : operationQuery given format = some query)
    (hc : c ∈ query) : inQuery c = false := by
  have hencoded (given : List Char) : ∀ c ∈ Url.Percent.encode inQuery given, inQuery c = false :=
    fun c hc => Url.Percent.notIn_of_mem_encode (fun _ h => h) (by decide) (by decide) hc
  have hpair : ∀ name ∈ format.parameter,
      ∀ c ∈ "format=".toList ++ name.toList, inQuery c = false := by
    cases format <;> simp [ContentFormat.parameter] <;> decide
  unfold operationQuery at hquery
  split at hquery
  · obtain ⟨given, -, rfl⟩ := Option.map_eq_some_iff.mp hquery
    exact hencoded _ c hc
  · rename_i name hname
    dsimp only at hquery
    split at hquery
    · cases hquery
      exact hpair name hname c hc
    · cases hquery
      exact hpair name hname c hc
    · rename_i given _ hgiven
      cases hquery
      obtain ⟨given, -, rfl⟩ := Option.map_eq_some_iff.mp hgiven
      rcases List.mem_append.mp hc with hc | hc
      · exact hencoded _ c hc
      · rcases List.mem_cons.mp hc with rfl | hc
        · decide
        · exact hpair name hname c hc

variable {text : String} {base : BaseUrl}

/-- A root is the URL that is read, without one slash at the end of its path. -/
theorem exists_url_of_parse (h : BaseUrl.parse text = .ok base) :
    ∃ url, Url.parse text = .ok (.web url) ∧ base.origin = url.origin ∧
      base.path = Url.Path.dropOpenEnd url.path := by
  rw [BaseUrl.parse, mapError_eq_ok_iff, BaseUrl.read] at h
  split at h
  · cases h
  · cases h
  · rename_i url hurl
    split at h
    · cases h
    · split at h
      · cases h
      · cases h
        exact ⟨url, hurl, rfl, rfl⟩

theorem legible_of_parse (h : BaseUrl.parse text = .ok base) : base.url.Legible := by
  obtain ⟨url, hurl, horigin, hpath⟩ := exists_url_of_parse h
  obtain ⟨scheme, rest, hread⟩ := Url.exists_readWeb_of_parse hurl
  obtain ⟨hlegible, hsettled⟩ := Url.legible_of_readWeb hread
  rw [← horigin] at hlegible
  have hbase : Url.Path.Settled base.path := hpath ▸ hsettled.dropOpenEnd
  exact ⟨hlegible, hbase, nofun, rfl⟩

theorem legible_join (h : base.url.Legible) (segments : List String) {query : Option (List Char)}
    (hquery : ∀ text ∈ query, ∀ c ∈ text, inQuery c = false) :
    (base.join segments query).Legible :=
  ⟨h.origin, h.path.extend _, hquery, rfl⟩

theorem legible_clients (h : base.url.Legible) : base.clients.Legible :=
  legible_join h _ nofun

theorem legible_operation (h : base.url.Legible) (endpoint : String) (descriptor : Descriptor) :
    (base.operation endpoint descriptor).Legible := by
  unfold operation
  split
  exact legible_join h _ fun _ hquery _ hc => inQuery_of_operationQuery hquery hc

end BaseUrl

end Stimulus
