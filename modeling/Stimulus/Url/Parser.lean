import Stimulus.Url.Basic
import Stimulus.Url.Path

/-!
Reading URLs.  Blanks and control characters around the text and tabs and line ends inside it are
dropped, a scheme is read, and behind it an authority and a path.  Only the URLs of web servers are
kept as records; of another scheme it is only settled whether the text is a URL at all.
-/

namespace Stimulus.Url

/-- What a text is the URL of. -/
inductive Reading where
  | web (url : Url)
  /-- The URL of something that is not on a web server. -/
  | foreign (scheme : String)

/-- How the rest of a text is read, by its scheme. -/
inductive Family where
  | web (scheme : Scheme)
  /-- A scheme with hosts like those of web servers. -/
  | hosted
  | file
  | free

def Family.ofName (name : String) : Family :=
  match name with
  | "http" => .web .http
  | "https" => .web .https
  | "ftp" | "ws" | "wss" => .hosted
  | "file" => .file
  | _ => .free

/-- A control character or blank, dropped at either end. -/
def isMargin (c : Char) : Bool :=
  c.toNat ≤ 0x20

/-- The text that is read: without its margins and ignored characters. -/
def strip (text : List Char) : List Char :=
  ((((text.dropWhile isMargin).reverse).dropWhile isMargin).reverse).filter (!Path.isIgnored ·)

def isSchemeChar (c : Char) : Bool :=
  c.isAlphanum || c == '+' || c == '-' || c == '.'

/-- The scheme of a text in lower case, and what follows its colon. -/
def splitScheme? (text : List Char) : Option (String × List Char) :=
  match text with
  | [] => none
  | c :: _ =>
    if c.isAlpha then
      match text.span isSchemeChar with
      | (scheme, ':' :: rest) => some (String.ofList (scheme.map Char.toLower), rest)
      | _ => none
    else none

def isSlash (c : Char) : Bool :=
  c == '/' || c == '\\'

def endsAuthority (backslash : Bool) (c : Char) : Bool :=
  c == '/' || c == '?' || c == '#' || (backslash && c == '\\')

/-- A text cut at the last `@`. -/
def splitUserInfo (authority : List Char) : Option (List Char) × List Char :=
  match authority.reverse.span (· != '@') with
  | (host, _ :: info) => (some info.reverse, host.reverse)
  | (_, []) => (none, authority)

/-- The host of an authority, and what stands behind its colon. -/
def splitPort (inBrackets : Bool) : List Char → List Char × Option (List Char)
  | [] => ([], none)
  | c :: rest =>
    if c = ':' ∧ !inBrackets then ([], some rest)
    else
      let (host, port) := splitPort (if c = '[' then true else if c = ']' then false else inBrackets) rest
      (c :: host, port)

/-- The name and password of an authority, encoded; an empty password is none. -/
def readUserInfo (info : List Char) : String × Option String :=
  let encode (text : List Char) := String.ofList (Percent.encode Percent.inUserInfo text)
  match info.span (· != ':') with
  | (user, ':' :: password) =>
    (encode user, if password.isEmpty then none else some (encode password))
  | (user, _) => (encode user, none)

def greatestPort : Nat := 65535

/-- The port that a text of digits gives; an empty text gives none. -/
def readPort (text : List Char) : Except Fault (Option Nat) :=
  if text.isEmpty then .ok none
  else
    match Decimal.value? 10 text with
    | some n => if greatestPort < n then .error .invalidPort else .ok (some n)
    | none => .error .invalidPort

def splitTail (text : List Char) : Option (List Char) × Option (List Char) :=
  let (front, back) := text.span (· != '#')
  let query := match front with
    | '?' :: query => some (Percent.encode Percent.inQuery query)
    | _ => none
  let fragment := match back with
    | '#' :: fragment => some (Percent.encode Percent.inFragment fragment)
    | _ => none
  (query, fragment)

/-- The parts of an authority whose host is not checked. -/
structure Authority where
  user : String
  password : Option String
  host : List Char
  port : Option (List Char)

/-- An authority taken apart.  One with only an `@` before its end has no host. -/
def readAuthority (closed : Bool) (text : List Char) : Except Fault Authority :=
  let (info, hostAndPort) := splitUserInfo text
  if info = some [] ∧ hostAndPort.isEmpty ∧ closed then .error .emptyHost
  else
    let (user, password) := readUserInfo (info.getD [])
    let (host, port) := splitPort false hostAndPort
    .ok { user, password, host, port }

/-- The URL of a web server, given behind the slashes of its scheme. -/
def readWeb (scheme : Scheme) (text : List Char) : Except Fault Url := do
  let (authority, rest) := text.span (!endsAuthority true ·)
  let { user, password, host, port } ← readAuthority (!rest.isEmpty) authority
  if host.isEmpty then .error .emptyHost
  else
    let host ← Host.parse host
    let port ← readPort (port.getD [])
    let (path, tail) := rest.span fun c => c != '?' && c != '#'
    let (query, fragment) := splitTail tail
    return {
      origin := { scheme, user, password, host, port := port.filter (· != scheme.defaultPort) }
      path := Path.parse path
      query
      fragment }

/-- Whether a text is the URL of a scheme with free form hosts, behind its two slashes. -/
def checkFree (text : List Char) : Except Fault Unit := do
  let (authority, rest) := text.span (!endsAuthority false ·)
  let { user, password, host, port } ← readAuthority (!rest.isEmpty) authority
  Host.checkOpaque host
  if host.isEmpty ∧ (port.isSome ∨ !user.isEmpty ∨ password.isSome) then .error .emptyHost
  else
    let _ ← readPort ((port.getD []).takeWhile (· != '\\'))

/-- Whether a text is the URL of a file, behind the colon of its scheme. -/
def checkFile (text : List Char) : Except Fault Unit :=
  match text with
  | a :: b :: rest =>
    if isSlash a ∧ isSlash b then
      let host := rest.takeWhile (!endsAuthority true ·)
      if host.isEmpty ∨ Path.isDrive host then .ok () else (Host.parse host).map fun _ => ()
    else .ok ()
  | _ => .ok ()

/-- What a text is the URL of. -/
def parse (text : String) : Except Fault Reading :=
  match splitScheme? (strip text.toList) with
  | none => .error .relativeWithoutBase
  | some (name, rest) =>
    match Family.ofName name with
    | .web scheme => (readWeb scheme (rest.dropWhile isSlash)).map .web
    | .hosted => (readWeb .http (rest.dropWhile isSlash)).map fun _ => .foreign name
    | .file => (checkFile rest).map fun _ => .foreign name
    | .free =>
      match rest with
      | '/' :: '/' :: rest => (checkFree rest).map fun _ => .foreign name
      | _ => .ok (.foreign name)

end Stimulus.Url
