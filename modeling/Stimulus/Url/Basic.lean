import Stimulus.Url.Host

/-!
URLs of web servers as records: an origin, a path as a list of segments, a query and a fragment,
each part in its encoded form.  `Url.text` sets the parts together.
-/

namespace Stimulus

namespace Url

/-- The schemes that requests are sent over. -/
inductive Scheme where
  | http
  | https
  deriving DecidableEq

def Scheme.name : Scheme → String
  | http => "http"
  | https => "https"

/-- The port that a scheme uses when the URL names none. -/
def Scheme.defaultPort : Scheme → Nat
  | http => 80
  | https => 443

/-- Everything before the path: which server, and as whom. -/
structure Origin where
  scheme : Scheme
  user : String
  password : Option String
  host : Host
  port : Option Nat
  deriving DecidableEq

def Origin.userInfoText (origin : Origin) : List Char :=
  match origin.password with
  | some password => origin.user.toList ++ ':' :: password.toList ++ ['@']
  | none => if origin.user.isEmpty then [] else origin.user.toList ++ ['@']

def Origin.portText (origin : Origin) : List Char :=
  match origin.port with
  | some port => ':' :: Decimal.ofNat port
  | none => []

def Origin.text (origin : Origin) : List Char :=
  origin.scheme.name.toList ++ ':' :: '/' :: '/' :: origin.userInfoText ++ origin.host.text ++
    origin.portText

/-- The text of a path: a slash before every segment. -/
def pathText (segments : List (List Char)) : List Char :=
  segments.flatMap ('/' :: ·)

end Url

/-- The URL of something on a web server.  The path has at least one segment; the root is the path
with one empty segment. -/
structure Url where
  origin : Url.Origin
  path : List (List Char)
  query : Option (List Char)
  fragment : Option (List Char)
  deriving DecidableEq

namespace Url

def queryText (query : Option (List Char)) : List Char :=
  match query with
  | some query => '?' :: query
  | none => []

def fragmentText (fragment : Option (List Char)) : List Char :=
  match fragment with
  | some fragment => '#' :: fragment
  | none => []

def chars (url : Url) : List Char :=
  url.origin.text ++ pathText url.path ++ queryText url.query ++ fragmentText url.fragment

/-- The URL as one text. -/
def text (url : Url) : String :=
  String.ofList url.chars

end Url

end Stimulus
