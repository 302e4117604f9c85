import Switchboard.Json.Printer
import Switchboard.Url.Domain

/-!
# Hosts

The host of a URL is a name or an address. `Host.ofDomain` reads the host of a URL whose scheme
belongs to the web: a domain name, or four numbers with dots between them, written in any of the old
ways, or eight groups with colons between them, in brackets. `Host.ofName` reads the host of any
other URL, where a name means nothing and is kept as it is. `Host.text` writes every address in one
way.
-/

namespace Switchboard

/-- What keeps a text from being a URL. -/
inductive UrlFault where
  | noScheme
  | emptyHost
  | badDomain
  | badPort
  | badIPv4
  | badIPv6
  | badHostCharacter
  deriving DecidableEq, Repr

/-- The wording of the fault. -/
def UrlFault.message : UrlFault → String
  | noScheme => "relative URL without a base"
  | emptyHost => "empty host"
  | badDomain => "invalid international domain name"
  | badPort => "invalid port number"
  | badIPv4 => "invalid IPv4 address"
  | badIPv6 => "invalid IPv6 address"
  | badHostCharacter => "invalid domain character"

namespace Url

/-- The host of a URL. -/
inductive Host where
  /-- A name; the empty name stands for no host. -/
  | name (text : List Char)
  /-- An address of 32 bits. -/
  | ipv4 (address : Nat)
  /-- An address of eight groups of 16 bits. -/
  | ipv6 (groups : List Nat)
  deriving DecidableEq, Repr

/-! ## Addresses of four numbers -/

/-- A number in an address: in base ten, after `0x` in base sixteen, or after `0` in base eight. -/
def readIPv4Number : List Char → Option Nat
  | [] => none
  | '0' :: 'x' :: digits | '0' :: 'X' :: digits =>
    if digits.all Base.sixteen.isDigit then some (Base.sixteen.value digits) else none
  | '0' :: digits =>
    if digits.all fun c => '0' ≤ c && c ≤ '7' then
      some (digits.foldl (fun n c => n * 8 + Base.digitValue c) 0)
    else none
  | digits => if digits.all Char.isDigit then some (digitsValue digits) else none

/-- The parts of a name between its dots; a dot at the end counts for nothing. -/
def domainParts (name : List Char) : List (List Char) :=
  let parts := Text.cut '.' name
  if parts.length ≠ 1 ∧ parts.getLast? = some [] then parts.dropLast else parts

/-- The last part is a number, so that the name can only be an address. -/
def endsInNumber (name : List Char) : Bool :=
  match (domainParts name).getLast? with
  | some part => (part != [] && part.all Char.isDigit) || (readIPv4Number part).isSome
  | none => false

/-- The address that numbers denote: all but the last are one octet each, and the last is the
rest. -/
def ipv4OfNumbers : Nat → List Nat → Option Nat
  | _, [] => none
  | size, [last] => if last < Nat.pow 256 size then some last else none
  | size, n :: rest =>
    if n < 256 then (ipv4OfNumbers (size - 1) rest).map (n * Nat.pow 256 (size - 1) + ·) else none

/-- An address of up to four numbers with dots between them. -/
def readIPv4 (name : List Char) : Option Nat := do
  let parts := domainParts name
  if 4 < parts.length then none
  else ipv4OfNumbers 4 (← parts.mapM readIPv4Number)

/-! ## Addresses of eight groups -/

/-- A group: one to four digits of base sixteen. -/
def readGroup (digits : List Char) : Option Nat :=
  if 1 ≤ digits.length ∧ digits.length ≤ 4 ∧ digits.all Base.sixteen.isDigit then
    some (Base.sixteen.value digits)
  else none

/-- An octet: a number in base ten without a zero before it. -/
def readOctet (digits : List Char) : Option Nat :=
  if digits ≠ [] ∧ digits.all Char.isDigit ∧ (digits.head? = some '0' → digits.length = 1)
      ∧ digitsValue digits < 256 then
    some (digitsValue digits)
  else none

/-- Two groups written as four octets with dots between them. -/
def readOctets (piece : List Char) : Option (List Nat) :=
  match (Text.cut '.' piece).mapM readOctet with
  | some [a, b, c, d] => some [a * 256 + b, c * 256 + d]
  | _ => none

/-- Groups; the last two may be written as octets where that is allowed. -/
def readGroups (octetsAllowed : Bool) : List (List Char) → Option (List Nat)
  | [] => some []
  | [piece] =>
    if piece.contains '.' && octetsAllowed then readOctets piece
    else (readGroup piece).map ([·])
  | piece :: rest => do
    let group ← readGroup piece
    let groups ← readGroups octetsAllowed rest
    return group :: groups

/-- The text before the first two colons in a row, and the text after them. -/
def splitGap : List Char → Option (List Char × List Char)
  | [] => none
  | c :: rest =>
    match c, rest with
    | ':', ':' :: after => some ([], after)
    | _, _ => (splitGap rest).map fun (before, after) => (c :: before, after)

/-- The pieces between colons; there are none in the empty text. -/
def groupPieces (cs : List Char) : List (List Char) := if cs = [] then [] else Text.cut ':' cs

/-- An address of eight groups; two colons in a row stand for one or more groups of zero. -/
def readIPv6 (cs : List Char) : Option (List Nat) :=
  match splitGap cs with
  | none => do
    let groups ← readGroups true (groupPieces cs)
    if groups.length = 8 then some groups else none
  | some (before, after) => do
    let left ← readGroups false (groupPieces before)
    let right ← readGroups true (groupPieces after)
    let given := left.length + right.length
    if given < 8 then some (left ++ List.replicate (8 - given) 0 ++ right) else none

/-- The start and the length of the longest run of zeros, of the first one among equals. -/
def longestZeros (groups : List Nat) : Nat × Nat :=
  (List.range groups.length).foldl (fun (start, length) i =>
    let here := ((groups.drop i).takeWhile (· == 0)).length
    if length < here then (i, here) else (start, length)) (0, 0)

/-- Groups in base sixteen with colons between them. -/
def groupsText (groups : List Nat) : List Char :=
  Text.join ':' (groups.map (Nat.toDigits 16))

/-- An address of eight groups, with two colons for a run of at least two zeros. -/
def ipv6Text (groups : List Nat) : List Char :=
  let (start, length) := longestZeros groups
  if length < 2 then groupsText groups
  else groupsText (groups.take start) ++ ':' :: ':' :: groupsText (groups.drop (start + length))

/-- An address of 32 bits as four numbers with dots between them. -/
def ipv4Text (address : Nat) : List Char :=
  Text.join '.' ([address / 0x1000000, address / 0x10000 % 256, address / 256 % 256,
    address % 256].map natText)

namespace Host

/-- The host as it is written in a URL. -/
def text : Host → List Char
  | name text => text
  | ipv4 address => ipv4Text address
  | ipv6 groups => '[' :: ipv6Text groups ++ [']']

/-- There is no host. -/
def isEmpty (h : Host) : Bool := h == name []

/-- An address in brackets, without the first of them. -/
def ofBracketed (rest : List Char) : Except UrlFault Host :=
  match rest.getLast? with
  | some ']' =>
    match readIPv6 rest.dropLast with
    | some groups => .ok (ipv6 groups)
    | none => .error .badIPv6
  | _ => .error .badIPv6

/-- The host of a URL of the web. -/
def ofDomain : List Char → Except UrlFault Host
  | '[' :: rest => ofBracketed rest
  | cs =>
    match Domain.toAscii (decode cs) with
    | none => .error .badDomain
    | some [] => .error .emptyHost
    | some domain =>
      if endsInNumber domain then
        match readIPv4 domain with
        | some address => .ok (ipv4 address)
        | none => .error .badIPv4
      else .ok (name domain)

/-- The character has no place in the name of a host. -/
def isForbidden (c : Char) : Bool :=
  c.toNat == 0
    || [' ', '#', '/', ':', '<', '>', '?', '@', '[', '\\', ']', '^', '|'].contains c

/-- The host of any other URL. -/
def ofName : List Char → Except UrlFault Host
  | '[' :: rest => ofBracketed rest
  | cs =>
    if cs.any isForbidden then .error .badHostCharacter
    else .ok (name (encode isControl cs))

end Host

end Url

end Switchboard
