import Switchboard.Entries
import Switchboard.Number.Literal
import Switchboard.Text.Blank

/-!
# Settings

The settings of a server are named values. A set of settings may be layered over others, which are
asked for the names it does not have. Values that should be numbers or truth values are read from
their text, blanks at the ends aside; the first fault from the left is reported.
-/

namespace Switchboard

/-- Named values, over the layers that are asked next. -/
structure Settings where
  values : Entries String := []
  below : List (Entries String) := []

/-- Why a text is no number or no truth value. -/
inductive ScalarFault where
  | emptyText
  | badDigit
  | tooLarge
  | tooSmall
  | notBoolean
  deriving DecidableEq, Repr

/-- The wording of the fault. -/
def ScalarFault.message : ScalarFault → String
  | emptyText => "cannot parse integer from empty string"
  | badDigit => "invalid digit found in string"
  | tooLarge => "number too large to fit in target type"
  | tooSmall => "number too small to fit in target type"
  | notBoolean => "provided string was not `true` or `false`"

/-- A setting whose value is of the wrong form. -/
structure SettingError where
  name : String
  value : String
  fault : ScalarFault
  deriving DecidableEq, Repr

/-- The wording of the error. -/
def SettingError.message (e : SettingError) : String :=
  "Invalid value " ++ e.value ++ " for " ++ e.name ++ ": " ++ e.fault.message

namespace Settings

/-- The first value of a name from the top. -/
def get? (s : Settings) (name : String) : Option String :=
  (s.values :: s.below).findSome? fun layer => Entries.get? layer name

/-- The value of a name, or another one. -/
def getD (s : Settings) (name fallback : String) : String := (s.get? name).getD fallback

/-- Sets a value in the top layer. -/
def set (s : Settings) (name value : String) : Settings :=
  { s with values := Entries.set s.values name value }

/-- Adds digits to a magnitude that may not pass the limit. -/
def readMagnitude (limit : Nat) (past : ScalarFault) (n : Nat) : List Char → Except ScalarFault Nat
  | [] => .ok n
  | c :: rest =>
    if !c.isDigit then .error .badDigit
    else
      let next := n * 10 + (c.toNat - '0'.toNat)
      if limit < next then .error past else readMagnitude limit past next rest

/-- An integer from `low` to `high`. Only where negative numbers are allowed is a minus sign. -/
def readInteger (low high : Int) (cs : List Char) : Except ScalarFault Int :=
  match cs with
  | [] => .error .emptyText
  | ['+'] => .error .badDigit
  | ['-'] => .error .badDigit
  | '+' :: rest => (readMagnitude high.toNat .tooLarge 0 rest).map Int.ofNat
  | '-' :: rest =>
    if low < 0 then (readMagnitude low.natAbs .tooSmall 0 rest).map fun n => -(n : Int)
    else .error .badDigit
  | cs => (readMagnitude high.toNat .tooLarge 0 cs).map Int.ofNat

/-- A truth value. -/
def readBool (cs : List Char) : Except ScalarFault Bool :=
  if cs = ['t', 'r', 'u', 'e'] then .ok true
  else if cs = ['f', 'a', 'l', 's', 'e'] then .ok false
  else .error .notBoolean

/-- The value of a name as `read` reads it, or another one where it is not set. -/
def getParsed (s : Settings) (name : String) (read : List Char → Except ScalarFault α)
    (fallback : α) : Except SettingError α :=
  match s.get? name with
  | none => .ok fallback
  | some value => (read (Text.trim value.toList)).mapError fun fault => ⟨name, value, fault⟩

/-! ## The settings of a server -/

/-- The setting of the path under which all APIs are served. -/
def httpPathName : String := "NANO_API_HTTP_PATH"

/-- The setting of the host that the server is bound to. -/
def hostName : String := "NANO_SERVER_HOST"

/-- The setting of the port that the server is bound to. -/
def portName : String := "NANO_SERVER_PORT"

/-- The path under which all APIs are served unless it is set. -/
def defaultHttpPath : String := "/api"

/-- The path under which all APIs are served: with a slash before it and none after it. -/
def httpPath (s : Settings) : String :=
  let path := (s.getD httpPathName defaultHttpPath).toList
  let trimmed := (path.reverse.dropWhile (· == '/')).reverse
  String.ofList (if trimmed.head? = some '/' then trimmed else '/' :: trimmed)

/-- The host that the server is bound to. -/
def host (s : Settings) : String := s.getD hostName "0.0.0.0"

/-- The port that the server is bound to. -/
def port (s : Settings) : Except SettingError Int :=
  s.getParsed portName (readInteger 0 65535) 9876

end Settings

end Switchboard
