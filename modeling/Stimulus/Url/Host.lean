import Stimulus.Decimal.Digits
import Stimulus.Url.Domain
import Stimulus.Url.Percent

/-!
Hosts: a domain name, or an address of either version.  Addresses are read in every form a host
may give them in, and written in one.
-/

namespace Stimulus.Url

/-- Why a text is no URL. -/
inductive Fault where
  /-- There is no scheme, and nothing to resolve the text against. -/
  | relativeWithoutBase
  | emptyHost
  | invalidPort
  | invalidIpv4
  | invalidIpv6
  | invalidDomain
  /-- A host of a scheme with free form hosts has a character that ends hosts. -/
  | invalidCharacter
  deriving DecidableEq

def Fault.message : Fault → String
  | relativeWithoutBase => "relative URL without a base"
  | emptyHost => "empty host"
  | invalidPort => "invalid port number"
  | invalidIpv4 => "invalid IPv4 address"
  | invalidIpv6 => "invalid IPv6 address"
  | invalidDomain => "invalid international domain name"
  | invalidCharacter => "invalid domain character"

inductive Host where
  | domain (name : String)
  | ipv4 (address : Nat)
  /-- Eight numbers of sixteen bits. -/
  | ipv6 (pieces : List Nat)
  deriving DecidableEq

/-! ## Version 4 -/

namespace Ipv4

/-- One number of an address: hexadecimal behind `0x`, octal behind `0`, else decimal. -/
def number? : List Char → Option Nat
  | '0' :: 'x' :: digits | '0' :: 'X' :: digits =>
    if digits.isEmpty then some 0 else Decimal.value? 16 digits
  | '0' :: c :: digits => Decimal.value? 8 (c :: digits)
  | digits => Decimal.value? 10 digits

def parts (name : List Char) : List (List Char) :=
  name.splitOn '.'

/-- The parts of a name, without an empty last one. -/
def numberParts (name : List Char) : List (List Char) :=
  let all := parts name
  if all.getLast? = some [] then all.dropLast else all

/-- A name whose last part is a number is an address, or nothing. -/
def looksNumeric (name : List Char) : Bool :=
  if (parts name) = [[]] then false
  else
    match (numberParts name).getLast? with
    | none => false
    | some last => (!last.isEmpty && last.all Char.isDigit) || (number? last).isSome

/-- The address that up to four numbers give, the last one filling the bytes that are left. -/
def ofNumbers? (numbers : List Nat) : Option Nat :=
  match numbers.getLast? with
  | none => none
  | some last =>
    let leading := numbers.dropLast
    if 3 < leading.length ∨ leading.any (255 < ·) ∨ Nat.pow 256 (4 - leading.length) ≤ last then none
    else
      some (leading.zipIdx.foldl (fun sum pair => sum + pair.1 * Nat.pow 256 (3 - pair.2)) last)

def parse? (name : List Char) : Option Nat := do
  ofNumbers? (← (numberParts name).mapM number?)

def text (address : Nat) : List Char :=
  let byte (k : Nat) := Decimal.ofNat (address / Nat.pow 256 k % 256)
  byte 3 ++ '.' :: byte 2 ++ '.' :: byte 1 ++ '.' :: byte 0

end Ipv4

/-! ## Version 6 -/

namespace Ipv6

/-- What is read of an address: the pieces in reverse, and how many stand before the gap. -/
structure Draft where
  pieces : List Nat
  gap : Option Nat

/-- One byte of an embedded address of version 4, without leading zeros. -/
def byte? (digits : List Char) : Option Nat :=
  match digits with
  | '0' :: _ :: _ => none
  | digits => (Decimal.value? 10 digits).filter (· ≤ 255)

/-- The two pieces of an embedded address of version 4. -/
def embedded? (text : List Char) : Option (Nat × Nat) := do
  match ← (text.splitOn '.').mapM byte? with
  | [a, b, c, d] => some (a * 256 + b, c * 256 + d)
  | _ => none

/-- The pieces of a text.  A gap counts as one piece, so it stands for at least one zero. -/
def read (draft : Draft) : Nat → List Char → Option Draft
  | 0, _ => none
  | _ + 1, [] => some draft
  | fuel + 1, c :: rest =>
    if draft.pieces.length = 8 then none
    else if c = ':' then
      if draft.gap.isSome then none
      else
        let pieces := 0 :: draft.pieces
        read ⟨pieces, some pieces.length⟩ fuel rest
    else
      let digits := ((c :: rest).take 4).takeWhile fun c => (Decimal.digit? 16 c).isSome
      let value := (Decimal.value? 16 digits).getD 0
      match (c :: rest).drop digits.length with
      | [] => some { draft with pieces := value :: draft.pieces }
      | ':' :: next =>
        if next.isEmpty then none
        else read { draft with pieces := value :: draft.pieces } fuel next
      | '.' :: _ =>
        if digits.isEmpty ∨ 6 < draft.pieces.length then none
        else do
          let (high, low) ← embedded? (c :: rest)
          some { draft with pieces := low :: high :: draft.pieces }
      | _ => none

/-- The eight pieces, the gap filled with zeros. -/
def Draft.fill? (draft : Draft) : Option (List Nat) :=
  let pieces := draft.pieces.reverse
  match draft.gap with
  | none => if pieces.length = 8 then some pieces else none
  | some gap =>
    some (pieces.take gap ++ List.replicate (8 - pieces.length) 0 ++ pieces.drop gap)

def parse? (text : List Char) : Option (List Nat) := do
  let draft ← match text with
    | ':' :: ':' :: rest => read ⟨[0], some 1⟩ (rest.length + 1) rest
    | ':' :: _ => none
    | [] | [_] => none
    | text => read ⟨[], none⟩ (text.length + 1) text
  draft.fill?

def zeros (pieces : List Nat) : Nat :=
  (pieces.takeWhile (· = 0)).length

/-- The start and length of the first of the longest runs of zeros. -/
def longestRun (pieces : List Nat) : Nat × Nat :=
  (List.range pieces.length).foldl
    (fun best k =>
      let length := zeros (pieces.drop k)
      if best.2 < length then (k, length) else best)
    (0, 0)

def pieceText (piece : Nat) : List Char :=
  Nat.toDigits 16 piece

def piecesText (pieces : List Nat) : List Char :=
  [':'].intercalate (pieces.map pieceText)

/-- The text of an address; the longest run of at least two zeros becomes a gap. -/
def text (pieces : List Nat) : List Char :=
  let (start, length) := longestRun pieces
  if length < 2 then piecesText pieces
  else piecesText (pieces.take start) ++ ':' :: ':' :: piecesText (pieces.drop (start + length))

end Ipv6

/-! ## Hosts -/

namespace Host

/-- The host of a scheme whose hosts are domain names or addresses. -/
def parse (text : List Char) : Except Fault Host :=
  match text with
  | '[' :: rest =>
    match rest.reverse with
    | ']' :: inner =>
      match Ipv6.parse? inner.reverse with
      | some pieces => .ok (.ipv6 pieces)
      | none => .error .invalidIpv6
    | _ => .error .invalidIpv6
  | text =>
    match Domain.toAscii? (Percent.decode text) with
    | none => .error .invalidDomain
    | some [] => .error .emptyHost
    | some name =>
      if Ipv4.looksNumeric name then
        match Ipv4.parse? name with
        | some address => .ok (.ipv4 address)
        | none => .error .invalidIpv4
      else .ok (.domain (String.ofList name))

def isForbidden (c : Char) : Bool :=
  ['\x00', '\t', '\n', '\r', ' ', '#', '/', ':', '<', '>', '?', '@', '[', '\\', ']', '^', '|'].contains c

/-- Whether a scheme with free form hosts takes this one. -/
def checkOpaque (text : List Char) : Except Fault Unit :=
  match text with
  | '[' :: rest =>
    match rest.reverse with
    | ']' :: inner => if (Ipv6.parse? inner.reverse).isSome then .ok () else .error .invalidIpv6
    | _ => .error .invalidIpv6
  | text => if text.any isForbidden then .error .invalidCharacter else .ok ()

def text : Host → List Char
  | domain name => name.toList
  | ipv4 address => Ipv4.text address
  | ipv6 pieces => '[' :: Ipv6.text pieces ++ [']']

end Host

end Stimulus.Url
