import Switchboard.Url.Form
import Switchboard.Url.Host

/-!
# URLs

A URL in parts, each as it is written: what must be encoded in a part is encoded already. The path
of most URLs is a list of segments. A URL such as `mailto:a@b`, in which no slash follows the
scheme, has a flat path instead, a text that segments cannot be added to.

`Url.pushSegments` adds segments to a path and `Url.addPairs` adds pairs to a query. Both encode
what they add, so that a segment stays one segment and a value stays one value.
-/

namespace Switchboard

namespace Url

/-- The path of a URL. -/
inductive Path where
  | segments (segments : List (List Char))
  /-- A path without segments. -/
  | flat (text : List Char)
  deriving DecidableEq, Repr

/-- The part of a URL that says where to connect, and as whom. -/
structure Authority where
  user : List Char := []
  password : List Char := []
  host : Host
  /-- The port, unless it is the one that the scheme implies. -/
  port : Option Nat := none
  deriving DecidableEq, Repr

end Url

/-- A URL. -/
structure Url where
  scheme : String
  authority : Option Url.Authority := none
  /-- `/.` is written before the path, so that slashes at its start are not taken for those before a
  host. Reading a URL decides this, and changing its path leaves it as it is. -/
  isMarked : Bool := false
  path : Url.Path
  query : Option (List Char) := none
  fragment : Option (List Char) := none
  deriving DecidableEq, Repr

namespace Url

/-! ## Schemes -/

/-- The scheme of files. -/
def fileScheme : String := "file"

/-- The port that a scheme implies. -/
def defaultPort : String → Option Nat
  | "http" | "ws" => some 80
  | "https" | "wss" => some 443
  | "ftp" => some 21
  | _ => none

/-- A scheme of the web. The host of its URLs has a meaning, they always have a path of segments,
and a backslash separates the segments just as a slash does. -/
def isSpecial (scheme : String) : Bool := (defaultPort scheme).isSome || scheme == fileScheme

/-! ## Writing -/

/-- The path, with a slash before every segment. -/
def Path.text : Path → List Char
  | segments ss => ss.flatMap ('/' :: ·)
  | flat text => text

/-- The user, the host and the port. -/
def Authority.text (a : Authority) : List Char :=
  a.user ++ (if a.password = [] then [] else ':' :: a.password)
    ++ (if a.user = [] ∧ a.password = [] then [] else ['@'])
    ++ a.host.text
    ++ (match a.port with | some port => ':' :: natText port | none => [])

/-- The URL with a mark if its path needs one: there is no host, and the path starts with two
slashes. -/
def settleMark (u : Url) : Url :=
  { u with
    isMarked := match u.authority, u.path with
      | none, .segments ([] :: _ :: _) => true
      | _, _ => false }

/-- The URL as it is written. -/
def chars (u : Url) : List Char :=
  u.scheme.toList ++ ':' ::
    ((match u.authority with | some a => '/' :: '/' :: a.text | none => [])
      ++ (if u.isMarked then ['/', '.'] else [])
      ++ u.path.text
      ++ (match u.query with | some q => '?' :: q | none => [])
      ++ (match u.fragment with | some f => '#' :: f | none => []))

/-- The URL as it is written. -/
def text (u : Url) : String := String.ofList u.chars

/-! ## Segments -/

/-- A drive of a file system, such as `C:` or `C|`. -/
def isDrive : List Char → Bool
  | [letter, mark] => letter.isAlpha && (mark == ':' || mark == '|')
  | _ => false

/-- The segment is a drive, or what stands before its first backslash is one. -/
def startsWithDrive (segment : List Char) : Bool := isDrive (segment.takeWhile (· != '\\'))

/-- The segments of the parent. No step to a parent leads out of a drive. -/
def parent (ss : List (List Char)) : List (List Char) :=
  match ss.getLast? with
  | some last => if startsWithDrive last then ss else ss.dropLast
  | none => []

/-- The segments that a text makes below the root of a file system. A drive is written with a colon,
and what follows the colon is a segment of its own. -/
def rootSegments : List Char → List (List Char)
  | [letter, mark] => if isDrive [letter, mark] then [[letter, ':']] else [[letter, mark]]
  | letter :: mark :: rest =>
    if letter.isAlpha ∧ mark = ':' then [[letter, ':'], rest] else [letter :: mark :: rest]
  | text => [text]

/-- The text with its encoded dots in the clear. -/
def showDots : List Char → List Char
  | '%' :: '2' :: 'e' :: rest | '%' :: '2' :: 'E' :: rest => '.' :: showDots rest
  | c :: rest => c :: showDots rest
  | [] => []

/-- Adds a segment: one dot stands for the place reached, two dots for its parent. At the end of a
path both leave an empty segment. -/
def place (scheme : String) (isLast : Bool) (ss : List (List Char)) (segment : List Char) :
    List (List Char) :=
  let ending := if isLast then [[]] else []
  match showDots segment with
  | ['.'] => ss ++ ending
  | ['.', '.'] => parent ss ++ ending
  | _ => ss ++ (if scheme = fileScheme ∧ ss = [] then rootSegments segment else [segment])

/-- The segments without an empty one at the end; a path of one segment is left alone. -/
def dropEmptyLast (ss : List (List Char)) : List (List Char) :=
  if 2 ≤ ss.length ∧ ss.getLast? = some [] then ss.dropLast else ss

/-- The character is dropped wherever it stands in a URL. -/
def isDropped (c : Char) : Bool := c == '\t' || c == '\n' || c == '\r'

/-- What is encoded in a segment that is added to a path. -/
def addedSegmentSet (scheme : String) : EncodeSet :=
  if isSpecial scheme then specialSegmentSet else segmentSet

/-- Adds the text of a segment at the end. One that is a dot or two dots is passed over, and the
only segment of a path gives way if it is empty. -/
def pushSegment (scheme : String) (ss : List (List Char)) (text : List Char) : List (List Char) :=
  if text = ['.'] ∨ text = ['.', '.'] then ss
  else
    let segment := encode (addedSegmentSet scheme) (text.filter (!isDropped ·))
    place scheme true (if ss = [[]] then [] else ss) segment

/-- Adds the texts of segments to the path, in the place of an empty one at its end. A flat path
takes none. -/
def pushSegments (u : Url) (texts : List (List Char)) : Option Url :=
  match u.path with
  | .segments ss =>
    some { u with path := .segments (texts.foldl (pushSegment u.scheme) (dropEmptyLast ss)) }
  | .flat _ => none

/-- The path has segments. -/
def hasSegments (u : Url) : Bool :=
  match u.path with
  | .segments _ => true
  | .flat _ => false

/-- The URL with a slash at the end of its path. -/
def withSlash (u : Url) : Url :=
  match u.path with
  | .segments ss =>
    if ss.getLast? = some [] then u else { u with path := .segments (ss ++ [[]]) }
  | .flat _ => u

/-- The URL of a file that stands where this one does, or below it if its path ends with a slash. -/
def sibling (u : Url) (name : List Char) : Url :=
  match u.path with
  | .segments ss =>
    settleMark { u with path := .segments (ss.dropLast ++ [name]), query := none, fragment := none }
  | .flat _ => u

/-! ## Pairs -/

/-- Adds pairs to the query. -/
def addPairs (u : Url) (pairs : List (String × String)) : Url :=
  if pairs = [] then u
  else
    let added := formPairs pairs
    match u.query with
    | none | some [] => { u with query := some added }
    | some query => { u with query := some (query ++ '&' :: added) }

/-- The path and the query, as they are sent to a server. -/
def target (u : Url) : List Char :=
  u.path.text ++ (match u.query with | some q => '?' :: q | none => [])

end Url

end Switchboard
