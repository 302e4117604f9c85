import Switchboard.Handler.Run

/-!
# Scripted handlers

A handler can be written as data: a list of steps that set parts of the response, collect values and
end with a fixed outcome. Scripts stand in for handlers where a document is to be tried out.

The scripts of one group share a fixed state and a counter of calls. The counters of all groups make
up the store; each group has its own number in it.
-/

namespace Switchboard

/-- The types that a script can ask an argument for. -/
inductive ArgumentType where
  | string
  | unsigned (bits : Nat)
  | signed (bits : Nat)
  | double
  | boolean
  | optionalUnsigned (bits : Nat)
  | optionalString
  | strings
  | value

namespace ArgumentType

/-- A value as the type, written back as a value. -/
def decode (type : ArgumentType) (v : Json) : Decoded Json :=
  match type with
  | string => (Json.decodeString v).map .string
  | unsigned bits => (Json.decodeUnsigned bits v).map fun n => .ofInt n
  | signed bits => (Json.decodeSigned bits v).map .ofInt
  | double => (Json.decodeDouble v).map fun
    | .finite x => .number (.double x)
    | .infinite _ => .null
  | boolean => (Json.decodeBool v).map .bool
  | optionalUnsigned bits =>
    (Json.decodeOptional (Json.decodeUnsigned bits) v).map fun
      | some n => .ofInt n
      | none => .null
  | optionalString =>
    (Json.decodeOptional Json.decodeString v).map fun
      | some s => .string s
      | none => .null
  | strings =>
    (Json.decodeList Json.decodeString v).map fun items => .array (items.map Json.string)
  | value => .ok v

end ArgumentType

/-- What a script gives back. -/
inductive ScriptResult where
  /-- All arguments with their names. -/
  | arguments
  /-- The argument at a position. -/
  | argument (position : Nat)
  /-- The values collected. -/
  | collected
  /-- The request as an object. -/
  | context
  | value (v : Json)

/-- A step of a script. -/
inductive ScriptStep where
  | status (status : Nat)
  | header (name value : String)
  | body (v : Json)
  /-- Takes the body and collects it. -/
  | takeBody
  /-- Collects an argument as a type; fails where it is not of the type. -/
  | get (position : Nat) (type : ArgumentType)
  /-- Counts the call and collects the count. -/
  | count
  /-- Collects the state. -/
  | state
  /-- Collects a header of the request. -/
  | requestHeader (name : String)
  | fail (text : String)
  | failOther (text : String)
  /-- Fails where an argument equals a value. -/
  | failIf (position : Nat) (v : Json) (text : String)
  | crash (message : Option String)
  | result (r : ScriptResult)

/-- The group that a script belongs to: its number among the counters and its state. -/
structure ScriptGroup where
  number : Nat
  state : Json

/-- The counters of calls, by the number of the group. -/
abbrev Counters := List Nat

/-- The count of a group. -/
def Counters.get (c : Counters) (number : Nat) : Nat := List.getD c number 0

/-- Sets the count of a group. -/
def Counters.put (c : Counters) (number count : Nat) : Counters :=
  (c ++ List.replicate (number + 1 - c.length) 0).set number count

/-- The arguments as a script gives them back. -/
def Arguments.describe (a : Arguments) : Json :=
  .array (a.toList.map fun (name, argument) =>
    .array [.string name, match argument with
      | .value v => v
      | .context => .string "<context>"])

/-- What a script gives back, after the values collected. -/
def ScriptResult.eval (r : ScriptResult) (a : Arguments) (done : List Json) : Json :=
  match r with
  | arguments => a.describe
  | argument position => (a.value? position).getD .null
  | collected => .array done
  | context => a.context.toJson
  | value v => v

/-- The run of a script, after the values collected. -/
def runScript (group : ScriptGroup) (a : Arguments) :
    List ScriptStep → List Json → Run Counters
  | [], _ => .done (.returned .null)
  | step :: rest, collected =>
    match step with
    | .status status => .setStatus status (runScript group a rest collected)
    | .header name value => .setHeader name value (runScript group a rest collected)
    | .body v => .setBody v (runScript group a rest collected)
    | .takeBody => .takeBody fun body =>
      runScript group a rest (collected ++ [body.getD .null])
    | .get position type =>
      match a.get type.decode position with
      | .ok v => runScript group a rest (collected ++ [v])
      | .error error => .done (.failed error)
    | .count => .readStore fun counters =>
      let count := counters.get group.number + 1
      .writeStore (counters.put group.number count)
        (runScript group a rest (collected ++ [.ofInt count]))
    | .state => runScript group a rest (collected ++ [group.state])
    | .requestHeader name =>
      let value := match a.context.header? name with
        | some text => Json.string text
        | none => .null
      runScript group a rest (collected ++ [value])
    | .fail text => .done (.failed (.message text))
    | .failOther text => .done (.failed (.other text))
    | .failIf position v text =>
      if (a.value? position).any fun w => w.same v then .done (.failed (.message text))
      else runScript group a rest collected
    | .crash message => .done (.crashed message)
    | .result r => .done (.returned (r.eval a collected))

/-- The handler that a script is. -/
def scriptHandler (group : ScriptGroup) (steps : List ScriptStep) : Handler Counters :=
  fun a => runScript group a steps []

end Switchboard
