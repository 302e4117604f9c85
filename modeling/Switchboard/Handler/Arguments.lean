import Switchboard.Handler.Context
import Switchboard.Handler.Lookup
import Switchboard.Route.Document

/-!
# The arguments of a handler

The mapping of an operation names the arguments of its handler in their order. `Arguments.bind`
gives each name its argument: `ctx` the request itself, a name that starts with `ctx.` a part of the
request, every other name a parameter. A name that leads nowhere gives `null`.
-/

namespace Switchboard

/-- An argument of a handler. -/
inductive Argument where
  | value (v : Json)
  /-- The request itself. -/
  | context

/-- Why a handler failed. -/
inductive HandlerError where
  /-- The handler's own words. -/
  | message (text : String)
  /-- The argument of the given name is not of the type that the handler asked for. -/
  | invalidArgument (name : String) (cause : DecodeError)
  /-- An error that the handler passed on. -/
  | other (text : String)

/-- The wording of the error. -/
def HandlerError.text : HandlerError → String
  | message text => text
  | invalidArgument name cause => "Invalid argument '" ++ name ++ "': " ++ cause.message
  | other text => text

/-- The arguments of a handler, by position. -/
structure Arguments where
  names : List String
  values : List Argument
  context : Context

namespace Arguments

/-- How the names of the parts of the request start. -/
def contextStart : List Char := contextName.toList ++ ['.']

/-- The argument of one name. -/
def resolve (parameters : Entries Json) (context : Context) (name : String) : Argument :=
  if name = contextName then .context
  else
    let found :=
      if (Text.dropStart? contextStart name.toList).isSome then
        lookup [(contextName, context.toJson)] name
      else lookup parameters name
    .value (found.getD .null)

/-- The arguments of the names of a mapping. -/
def bind (mapping : List String) (parameters : Entries Json) (context : Context) : Arguments :=
  ⟨mapping, mapping.map (resolve parameters context), context⟩

/-- The number of arguments. -/
def size (a : Arguments) : Nat := a.values.length

/-- There are no arguments. -/
def isEmpty (a : Arguments) : Bool := a.values.isEmpty

/-- The argument at a position. -/
def argument? (a : Arguments) (position : Nat) : Option Argument := a.values[position]?

/-- The value at a position; the request itself is no value. -/
def value? (a : Arguments) (position : Nat) : Option Json :=
  match a.values[position]? with
  | some (.value v) => some v
  | _ => none

/-- The name of a position in messages. -/
def nameAt (a : Arguments) (position : Nat) : String :=
  match a.names[position]? with
  | some name => name
  | none => "#" ++ String.ofList (natText position)

/-- The value at a position as a type; where there is no value, `null` is decoded. -/
def get (a : Arguments) (decode : Json → Decoded α) (position : Nat) : Except HandlerError α :=
  (decode ((a.value? position).getD .null)).mapError (.invalidArgument (a.nameAt position))

/-- The arguments with their names. -/
def toList (a : Arguments) : List (String × Argument) := a.names.zip a.values

end Arguments

end Switchboard
