import Switchboard.Url.Basic

/-!
# Reading URLs

`Url.parse` reads a URL the way browsers do: it forgives blanks around the URL, line ends inside it,
letter case in its scheme and its host, and backslashes for slashes where the scheme is one of the
web, and it removes the dots from its path and the port that its scheme implies.
-/

namespace Switchboard

namespace Url

/-- The URL without the blanks and controls around it and the line ends in it. -/
def visible (text : String) : List Char :=
  let isEdge := fun (c : Char) => decide (c.toNat ≤ 0x20)
  let start := text.toList.dropWhile isEdge
  ((start.reverse.dropWhile isEdge).reverse).filter (!isDropped ·)

/-- The character may stand in a scheme. -/
def isSchemeChar (c : Char) : Bool := c.isAlphanum || c == '+' || c == '-' || c == '.'

/-- The scheme at the start of a URL, in lower case, and what follows its colon. -/
def splitScheme (cs : List Char) : Option (String × List Char) :=
  match cs.span isSchemeChar with
  | (first :: others, ':' :: rest) =>
    if first.isAlpha then some (String.ofList ((first :: others).map Char.toLower), rest) else none
  | _ => none

/-- The character separates segments, or the host and the path. -/
def isSlash (scheme : String) (c : Char) : Bool := c == '/' || (c == '\\' && isSpecial scheme)

/-- The character ends the path. -/
def endsPath (c : Char) : Bool := c == '?' || c == '#'

/-- The URL with the query and the fragment that follow its path. -/
def withTail (u : Url) (rest : List Char) : Url :=
  let querySet := if isSpecial u.scheme then specialQuerySet else querySet
  let (query, fragment) := rest.span (· != '#')
  { u with
    query := match query with
      | '?' :: query => some (encode querySet query)
      | _ => none
    fragment := match fragment with
      | '#' :: fragment => some (encode fragmentSet fragment)
      | _ => none }

/-! ## Paths -/

/-- Adds the pieces of a path one after another. -/
def placeAll (scheme : String) : List (List Char) → List (List Char) → List (List Char)
  | ss, [] => ss
  | ss, [piece] => place scheme true ss piece
  | ss, piece :: rest => placeAll scheme (place scheme false ss piece) rest

/-- The pieces of a path between its slashes. -/
def pathPieces (scheme : String) (path : List Char) : List (List Char) :=
  let slashed := path.map fun c => if isSlash scheme c then '/' else c
  (Text.cut '/' slashed).map (encode pathSet)

/-- The segments of a path; the slash before the first of them is not part of it. -/
def readSegments (scheme : String) (path : List Char) : List (List Char) :=
  placeAll scheme [] (pathPieces scheme path)

/-- The path without one slash at its start. -/
def dropSlash (scheme : String) : List Char → List Char
  | [] => []
  | c :: rest => if isSlash scheme c then rest else c :: rest

/-- The segments of a path that may start with a slash. -/
def readPath (scheme : String) : List Char → List (List Char)
  | [] => if isSpecial scheme then [[]] else []
  | c :: rest => readSegments scheme (dropSlash scheme (c :: rest))

/-! ## Hosts and ports -/

/-- What stands before the last separator and what stands after it. -/
def splitLast (sep : Char) (cs : List Char) : Option (List Char × List Char) :=
  (Text.splitOnce sep cs.reverse).map fun (after, before) => (before.reverse, after.reverse)

/-- The text of a host, up to a colon outside of brackets, and what follows. -/
def splitHost : Bool → List Char → List Char × List Char
  | _, [] => ([], [])
  | inBrackets, c :: rest =>
    if c = ':' ∧ ¬ inBrackets then ([], c :: rest)
    else
      let inside := if c = '[' then true else if c = ']' then false else inBrackets
      let (host, after) := splitHost inside rest
      (c :: host, after)

/-- The port after a colon, and what follows. Outside of the web a backslash may do so. -/
def readPort (scheme : String) : List Char → Except UrlFault (Option Nat × List Char)
  | ':' :: rest =>
    let port := digitsValue (digitRun rest)
    let after := afterDigits rest
    if 65535 < port ∨ (after ≠ [] ∧ after.head? ≠ some '\\') then .error .badPort
    else if digitRun rest = [] ∨ defaultPort scheme = some port then .ok (none, after)
    else .ok (some port, after)
  | rest => .ok (none, rest)

/-- The host of a URL under a scheme. -/
def readHost (scheme : String) (cs : List Char) : Except UrlFault Host :=
  if isSpecial scheme then
    if cs = [] then .error .emptyHost else Host.ofDomain cs
  else Host.ofName cs

/-- The user and the password, each as it is written. -/
def readUser (cs : List Char) : List Char × List Char :=
  match Text.splitOnce ':' cs with
  | some (user, password) => (encode userSet user, encode userSet password)
  | none => (encode userSet cs, [])

/-- The URL that follows a scheme and two slashes. -/
def readWithAuthority (scheme : String) (cs : List Char) : Except UrlFault Url := do
  let (front, behind) := cs.span fun c => !(isSlash scheme c || endsPath c)
  let (named, place) := match splitLast '@' front with
    | some (named, place) => (some named, place)
    | none => (none, front)
  if named = some [] ∧ place = [] ∧ behind ≠ [] then .error .emptyHost
  else
    let (user, password) := readUser (named.getD [])
    let (hostText, portText) := splitHost false place
    let host ← readHost scheme hostText
    if host.isEmpty ∧ portText ≠ [] then .error .emptyHost
    else
      let (port, more) ← readPort scheme portText
      if host.isEmpty ∧ (user ≠ [] ∨ password ≠ []) then .error .emptyHost
      else
        let (path, rest) := (more ++ behind).span (!endsPath ·)
        let u : Url :=
          { scheme
            authority := some { user, password, host, port }
            path := .segments (readPath scheme path) }
        .ok (u.withTail rest)

/-! ## Files -/

/-- The host of a file; the host itself goes by no name. -/
def readFileHost (cs : List Char) : Except UrlFault Host :=
  if cs = [] then .ok (.name [])
  else (Host.ofDomain cs).map fun host =>
    if host == .name ['l', 'o', 'c', 'a', 'l', 'h', 'o', 's', 't'] then .name [] else host

/-- The segments without empty ones at the start; one segment is always left. -/
def dropEmptyFirst : List (List Char) → List (List Char)
  | [] :: s :: rest => dropEmptyFirst (s :: rest)
  | ss => ss

/-- A drive is met directly below the root while the pieces are added. -/
def meetsDrive : List (List Char) → List (List Char) → Bool
  | _, [] => false
  | ss, piece :: rest =>
    (ss == [] && isDrive piece) || meetsDrive (place fileScheme false ss piece) rest

/-- The URL of a file, from its host and the path behind the root. The files of a drive have no
host. -/
def fileUrl (host : Host) (path rest : List Char) : Url :=
  let host := if meetsDrive [] (pathPieces fileScheme path) then .name [] else host
  let u : Url :=
    { scheme := fileScheme
      authority := some { host }
      path := .segments (dropEmptyFirst (readSegments fileScheme path)) }
  u.withTail rest

/-- The URL of a file that follows the scheme. Behind two slashes stands a host; where it is empty,
the slash behind it counts as one more slash of the path. -/
def readFile (cs : List Char) : Except UrlFault Url :=
  let (front, rest) := cs.span (!endsPath ·)
  match front with
  | a :: b :: path =>
    if isSlash fileScheme a && isSlash fileScheme b then
      let (hostText, after) := path.span (!isSlash fileScheme ·)
      if isDrive hostText then .ok (fileUrl (.name []) path rest)
      else (readFileHost hostText).map fun host =>
        fileUrl host (if host.isEmpty then after else after.drop 1) rest
    else .ok (fileUrl (.name []) (dropSlash fileScheme front) rest)
  | _ => .ok (fileUrl (.name []) (dropSlash fileScheme front) rest)

/-! ## URLs -/

/-- The URL that a text is. -/
def parse (text : String) : Except UrlFault Url :=
  match splitScheme (visible text) with
  | none => .error .noScheme
  | some (scheme, cs) =>
    if scheme = fileScheme then readFile cs
    else if isSpecial scheme then readWithAuthority scheme (cs.dropWhile (isSlash scheme))
    else match cs with
      | '/' :: '/' :: cs => readWithAuthority scheme cs
      | '/' :: cs =>
        let (path, rest) := cs.span (!endsPath ·)
        let u : Url := { scheme, path := .segments (readSegments scheme path) }
        .ok (u.settleMark.withTail rest)
      | cs =>
        let (path, rest) := cs.span (!endsPath ·)
        let u : Url := { scheme, path := .flat (encode isControl path) }
        .ok (u.withTail rest)

end Url

end Switchboard
