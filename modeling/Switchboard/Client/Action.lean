import Switchboard.Client.Error
import Switchboard.Json.Plain
import Switchboard.Route.Template
import Switchboard.Url.Basic

/-!
# Remote actions

An `Action` is an operation as a client sees it: a function of positional arguments. The arguments
are named by the mapping of the handler, without the request itself, and `Action.prepare` puts them
where the document declares those names:

* an argument of a path parameter replaces the parameter in the path;
* one of a query parameter goes to the query as plain text, one of a body parameter to the body as
  it is. Where no argument counts as given, the declared default is sent, or nothing.

An argument of a path parameter must be there, whatever its value.
-/

namespace Switchboard

/-- A request ready to be sent. -/
structure Prepared where
  method : String
  url : Url
  body : Option Json

/-- An operation that takes positional arguments. -/
structure Action where
  base : Url
  path : String
  verb : Verb
  /-- The names of the arguments. -/
  parameters : List String
  inputs : Inputs

/-- A segment of the path of a call. -/
inductive Slot where
  /-- A segment as it is declared. -/
  | declared (text : List Char)
  /-- The argument in the place of a parameter. -/
  | filled (text : List Char)
  deriving DecidableEq, Repr

namespace Slot

/-- The text of the segment. -/
def text : Slot → List Char
  | declared text => text
  | filled text => text

/-- The segment is the parameter of that name, in any letter case, and waits for its argument. -/
def awaits (name : String) : Slot → Bool
  | declared text => text.map Char.toLower == ':' :: name.toList.map Char.toLower
  | filled _ => false

/-- Fills the first segment that waits for the argument of a name. -/
def fill (name : String) (value : List Char) : List Slot → List Slot
  | [] => []
  | slot :: rest =>
    if slot.awaits name then filled value :: rest else slot :: fill name value rest

/-- Fills the segments for names with their arguments, in order. A name for which no segment waits
is passed over, and one without an argument is the error. -/
def fillAll : List String → List Json → List Slot → Except String (List Slot)
  | [], _, slots => .ok slots
  | name :: names, arguments, slots =>
    if slots.any (awaits name) then
      match arguments with
      | [] => .error name
      | value :: rest => fillAll names rest (fill name value.plainText slots)
    else fillAll names arguments.tail slots

end Slot

namespace Action

/-- The action of an operation served under a URL. -/
def ofPlaced (base : Url) (p : Placed) : Action :=
  { base
    path := p.path
    verb := p.verb
    parameters := p.operation.target.clientMapping
    inputs := p.operation.inputs }

/-- The number of arguments that the action takes. -/
def arity (a : Action) : Nat := a.parameters.length

/-- The segments of the path as they are declared. -/
def slots (a : Action) : List Slot := (pathSegments a.path).map Slot.declared

/-- The segments of the path with the arguments in them, if path parameters are declared. -/
def segments (a : Action) (arguments : List Json) : Except ClientError (List (List Char)) :=
  let filled :=
    if (a.inputs.url.map UrlInputs.isDeclared).getD false then
      Slot.fillAll a.parameters arguments a.slots
    else .ok a.slots
  match filled with
  | .ok slots => .ok (slots.map Slot.text)
  | .error name => .error (.missingPathArgument a.verb a.path name)

/-- The value of a declared name: its argument if that counts as given, and its default if not. -/
def argument (a : Action) (arguments : List Json) (name : String) (field : Field) : Option Json :=
  match (a.parameters.idxOf? name).bind (arguments[·]?) with
  | some value => if value.isTruthy then some value else field.fallback
  | none => field.fallback

/-- The values of declared names; names without one are left out. -/
def arguments (a : Action) (schema : Schema) (given : List Json) : List (String × Json) :=
  schema.filterMap fun (name, field) => (a.argument given name field).map fun v => (name, v)

/-- The pairs that the arguments add to the query. -/
def queryPairs (a : Action) (given : List Json) : List (String × String) :=
  (a.arguments (a.inputs.query.getD []) given).map fun (name, value) =>
    (name, String.ofList value.plainText)

/-- The body that the arguments make; only some verbs carry one, and only if one is declared. -/
def body (a : Action) (given : List Json) : Option Json :=
  match a.inputs.body with
  | some schema =>
    if a.verb.carriesBody then some (.object (a.arguments schema given)) else none
  | none => none

/-- The request that calls the action with the given arguments. -/
def prepare (a : Action) (given : List Json) : Except ClientError Prepared :=
  if a.arity < given.length then
    .error (.tooManyArguments a.verb a.path a.arity given.length)
  else
    match a.segments given with
    | .error e => .error e
    | .ok segments =>
      match a.base.pushSegments segments with
      | none => .error (.flatUrl a.base.text)
      | some url =>
        .ok
          { method := a.verb.method
            url := url.addPairs (a.queryPairs given)
            body := a.body given }

end Action

end Switchboard
