import Stimulus.Proofs.Url.Endpoint
import Stimulus.Proofs.Url.Reading

/-! Where requests go.  Their URLs are printed, read again and only then sent, so what counts is
what is read.  Every URL under a root is read with the origin that the root is read with: neither an
endpoint nor a resource path leads to another server, and an endpoint does not reach the query.  If
the root is read as it is written, so are the URLs under it, and a request names exactly the path
and the query that are printed. -/

namespace Stimulus

open Url.Percent (inQuery)

namespace BaseUrl

/-! ### One server -/

theorem operation_origin (base : BaseUrl) (endpoint : String) (descriptor : Descriptor) :
    (base.operation endpoint descriptor).origin = base.origin := by
  unfold operation
  split
  rfl

theorem operation_fragment (base : BaseUrl) (endpoint : String) (descriptor : Descriptor) :
    (base.operation endpoint descriptor).fragment = none := by
  unfold operation
  split
  rfl

theorem operation_query (base : BaseUrl) (endpoint : String) (descriptor : Descriptor) :
    (base.operation endpoint descriptor).query =
      operationQuery (splitQuery descriptor.path).2 descriptor.format := by
  simp only [operation, join]

/-- Whatever the endpoints and the entry, the URLs of its operations have the origin of the root, no
fragment, and the query that the path and the format of the entry make; and this is how they are
read, with the origin that the root and the list of clients are read with. -/
theorem operation_confined {text : String} {base : BaseUrl} (h : BaseUrl.parse text = .ok base)
    (descriptor : Descriptor) (endpoint endpoint' : String) :
    let first := base.operation endpoint descriptor
    let second := base.operation endpoint' descriptor
    let query := operationQuery (splitQuery descriptor.path).2 descriptor.format
    (first.origin = base.origin ∧ first.query = query ∧ first.fragment = none) ∧
    (second.origin = base.origin ∧ second.query = query ∧ second.fragment = none) ∧
    ∃ origin : Except Url.Fault Url.Origin,
      Url.parse base.text = origin.map (fun origin => .web (base.url.withOrigin origin)) ∧
      Url.parse base.clients.text =
        origin.map (fun origin => .web (base.clients.withOrigin origin)) ∧
      Url.parse first.text = origin.map (fun origin => .web (first.withOrigin origin)) ∧
      Url.parse second.text = origin.map (fun origin => .web (second.withOrigin origin)) := by
  intro first second query
  have hroot := legible_of_parse h
  have hparts (endpoint : String) : (base.operation endpoint descriptor).origin = base.origin ∧
      (base.operation endpoint descriptor).query = query ∧
      (base.operation endpoint descriptor).fragment = none :=
    ⟨operation_origin .., operation_query .., operation_fragment ..⟩
  have hread (endpoint : String) := (legible_operation hroot endpoint descriptor).parse_text
  simp only [operation_origin] at hread
  refine ⟨hparts endpoint, hparts endpoint', base.origin.reread, hroot.parse_text, ?_, ?_, ?_⟩
  · exact (legible_clients hroot).parse_text
  · exact hread endpoint
  · exact hread endpoint'

/-- Names of other servers, in an endpoint and in a path, are read as parts of the path. -/
theorem operation_confined_loopback :
    let descriptor : Descriptor := ⟨none, .get, "//u:p@[::2]:81/../..?a=#b", .text, none, none⟩
    let url := loopback.operation "@[::2]:81\\?x#y" descriptor
    BaseUrl.parse "http://[::1]/api/" = .ok loopback ∧
      Url.parse url.text = .ok (.web (url.withOrigin loopback.origin)) ∧
      url.query = some "a=%23b&format=Text".toList := by
  intro descriptor url
  have hparse : BaseUrl.parse "http://[::1]/api/" = .ok loopback := by rfl
  obtain ⟨⟨-, hquery, -⟩, -, origin, hroot, -, hfirst, -⟩ :=
    operation_confined hparse descriptor "@[::2]:81\\?x#y" ".."
  refine ⟨hparse, ?_, hquery.trans (by decide +kernel)⟩
  have hread : Url.parse loopback.text = .ok (.web loopback.url) := by rfl
  rw [hread] at hroot
  cases origin with
  | error fault => cases hroot
  | ok origin =>
    have hsame : origin = loopback.origin := by
      cases hroot
      rfl
    rw [hsame] at hfirst
    exact hfirst

/-! ### Printed and sent -/

/-- A request is sent to the URL that is printed for it: the URL is read as one with the same text,
and the first line of the message names all that stands behind the origin. -/
def SentAsPrinted (base : BaseUrl) (request : Request) : Prop :=
  ∃ url, Url.parse request.url = .ok (.web url) ∧ url.text = request.url ∧
    request.url.toList = base.origin.text ++ Http.target url ∧
    request.method.name.toList ++ ' ' :: Http.target url ++ " HTTP/1.1\r\n".toList <+:
      (Http.encode request url).toList

theorem requestLine_prefix_encode (request : Request) (url : Url) :
    request.method.name.toList ++ ' ' :: Http.target url ++ " HTTP/1.1\r\n".toList <+:
      (Http.encode request url).toList := by
  simp [Http.encode, Http.lineEnd]

/-- The origin of a root that is read with the same text is read with the same text. -/
theorem exists_reread_of_parse {base : BaseUrl} (hroot : base.url.Legible) {url : Url}
    (hurl : Url.parse base.text = .ok (.web url)) (htext : url.text = base.text) :
    ∃ origin, base.origin.reread = .ok origin ∧ origin.text = base.origin.text := by
  have hread : Url.parse base.text =
      base.origin.reread.map fun origin => .web (base.url.withOrigin origin) := hroot.parse_text
  rw [hurl] at hread
  cases horigin : base.origin.reread with
  | error fault =>
    rw [horigin] at hread
    cases hread
  | ok origin =>
    rw [horigin] at hread
    cases hread
    have hchars := String.ofList_injective htext
    simp only [Url.chars, Url.withOrigin, BaseUrl.url, List.append_cancel_right_eq] at hchars
    exact ⟨origin, rfl, hchars⟩

theorem sentAsPrinted_of_legible {base : BaseUrl} {request : Request} {url : Url}
    {origin : Url.Origin} (hread : base.origin.reread = .ok origin)
    (htext : origin.text = base.origin.text) (hurl : url.Legible)
    (horigin : url.origin = base.origin) (hrequest : request.url = url.text) :
    SentAsPrinted base request := by
  have hparse := hurl.parse_text
  rw [horigin, hread] at hparse
  have hchars : (url.withOrigin origin).chars = url.chars := by
    simp only [Url.chars, Url.withOrigin, htext, horigin]
  refine ⟨url.withOrigin origin, by rw [hrequest, hparse]; rfl, ?_, ?_,
    requestLine_prefix_encode request _⟩
  · rw [hrequest, Url.text, Url.text, hchars]
  · rw [hrequest, Url.text, String.toList_ofList, Url.chars, horigin, hurl.fragment]
    simp [Http.target, Url.withOrigin, Url.fragmentText]

/-- If a root is read with its own text, every request under it is sent as it is printed. -/
theorem sentAsPrinted_of_parse {text : String} {base : BaseUrl} (h : BaseUrl.parse text = .ok base)
    (hbase : ∃ url, Url.parse base.text = .ok (.web url) ∧ url.text = base.text) :
    SentAsPrinted base base.discoveryRequest ∧
      ∀ endpoint descriptor, SentAsPrinted base (base.operationRequest endpoint descriptor) := by
  obtain ⟨url, hurl, htext⟩ := hbase
  have hroot := legible_of_parse h
  obtain ⟨origin, hread, horigin⟩ := exists_reread_of_parse hroot hurl htext
  refine ⟨?_, fun endpoint descriptor => ?_⟩
  · exact sentAsPrinted_of_legible hread horigin (legible_clients hroot) rfl rfl
  · exact sentAsPrinted_of_legible hread horigin (legible_operation hroot endpoint descriptor)
      (operation_origin ..) rfl

theorem sentAsPrinted_loopback :
    BaseUrl.parse "http://[::1]/api/" = .ok loopback ∧
      (∃ url, Url.parse loopback.text = .ok (.web url) ∧ url.text = loopback.text) ∧
      SentAsPrinted loopback (loopback.operationRequest ".\t./?#%\\é"
        ⟨none, .put, "/../3//.?x=<\t'>", .json, some (.string "on"), none⟩) := by
  have hparse : BaseUrl.parse "http://[::1]/api/" = .ok loopback := by rfl
  have hread : ∃ url, Url.parse loopback.text = .ok (.web url) ∧ url.text = loopback.text :=
    ⟨loopback.url, by rfl, rfl⟩
  exact ⟨hparse, hread, (sentAsPrinted_of_parse hparse hread).2 _ _⟩

end BaseUrl

end Stimulus
