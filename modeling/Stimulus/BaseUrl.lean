import Stimulus.Error
import Stimulus.Url.Parser
import Stimulus.Descriptor.Basic

/-!
The root of a server's REST API, and the URLs under it: the list of clients, and the operations on
their resources.  A client's endpoint name is one segment of the path, whatever characters it has.
-/

namespace Stimulus

/-- The root of a REST API, under which paths can be appended. -/
structure BaseUrl where
  origin : Url.Origin
  path : List (List Char)
  deriving DecidableEq

namespace BaseUrl

/-- Why a URL is no root of an API. -/
inductive Problem where
  | notUrl (fault : Url.Fault)
  | unsupportedScheme (name : String)
  | hasQuery
  | hasFragment
  deriving DecidableEq

def Problem.message : Problem → String
  | notUrl fault => fault.message
  | unsupportedScheme name => "unsupported scheme '" ++ name ++ "'"
  | hasQuery => "query strings are not allowed"
  | hasFragment => "fragments are not allowed"

/-- The root that a text names, its path without an empty last segment. -/
def read (text : String) : Except Problem BaseUrl :=
  match Url.parse text with
  | .error fault => .error (.notUrl fault)
  | .ok (.foreign scheme) => .error (.unsupportedScheme scheme)
  | .ok (.web url) =>
    if url.query.isSome then .error .hasQuery
    else if url.fragment.isSome then .error .hasFragment
    else .ok { origin := url.origin, path := Url.Path.dropOpenEnd url.path }

/-- The root that a text names. -/
def parse (text : String) : Except Error BaseUrl :=
  (read text).mapError fun problem => .invalidBaseUrl text problem.message

/-- The root itself as a URL. -/
def url (base : BaseUrl) : Url where
  origin := base.origin
  path := base.path
  query := none
  fragment := none

def text (base : BaseUrl) : String :=
  base.url.text

/-- The URL of more segments under the root. -/
def join (base : BaseUrl) (segments : List String) (query : Option (List Char)) : Url :=
  { base.url with
    path := Url.Path.extend base.path (segments.map String.toList)
    query }

/-- The URL of the list of clients. -/
def clients (base : BaseUrl) : Url :=
  base.join ["clients"] none

/-! ## Operations -/

/-- The resource path of an entry, and the query behind its first question mark. -/
def splitQuery (path : String) : List Char × Option (List Char) :=
  match (Text.trim path).toList.span (· != '?') with
  | (path, _ :: query) => (path, some query)
  | (path, []) => (path, none)

/-- The segments of a resource path; a leading slash makes no difference. -/
def resourceSegments (path : List Char) : List String :=
  let inner := match path with
    | '/' :: rest => rest
    | path => path
  (inner.splitOn '/').map String.ofList

/-- The query of an operation: the one of the path, and the format behind it. -/
def operationQuery (query : Option (List Char)) (format : ContentFormat) : Option (List Char) :=
  let given := query.map fun query =>
    Url.Percent.encode Url.Percent.inQuery (query.filter (!Url.Path.isIgnored ·))
  match format.parameter with
  | none => given
  | some name =>
    let pair := "format=".toList ++ name.toList
    match given with
    | none | some [] => some pair
    | some given => some (given ++ '&' :: pair)

/-- The URL of an entry's operation on the client of that endpoint. -/
def operation (base : BaseUrl) (endpoint : String) (descriptor : Descriptor) : Url :=
  let (path, query) := splitQuery descriptor.path
  base.join ("clients" :: endpoint :: resourceSegments path)
    (operationQuery query descriptor.format)

/-! ## Templates -/

/-- What stands for the endpoint while it is not known. -/
def placeholder : String := "\x7bendpoint\x7d"

/-- `text` with its first occurrence of `old` replaced; `old` is not empty. -/
def replaceFirst (old new : List Char) : List Char → List Char
  | [] => []
  | c :: rest =>
    if old.isPrefixOf (c :: rest) then new ++ (c :: rest).drop old.length
    else c :: replaceFirst old new rest

/-- The operation URL with the placeholder in the place of an endpoint. -/
def template (base : BaseUrl) (descriptor : Descriptor) : String :=
  let clients := base.clients.chars ++ ['/']
  let encoded := Url.Percent.encode Url.Percent.inSegment placeholder.toList
  String.ofList <|
    replaceFirst (clients ++ encoded) (clients ++ placeholder.toList)
      (base.operation placeholder descriptor).chars

end BaseUrl

end Stimulus
