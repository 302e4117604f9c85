import Switchboard.Route.Definition
import Switchboard.Url.Host

/-!
# Errors of a client

A call fails before anything is sent, because the action or the arguments do not fit; or on the way,
because no server answers or the answer is an error; or afterwards, because the answer cannot be
read.
-/

namespace Switchboard

/-- Why a call, or the loading of a client, failed. -/
inductive ClientError where
  /-- No server answered, or one did with the status of an error. -/
  | request (status : Option Nat)
  | invalidUrl (fault : UrlFault)
  /-- The URL has a path that no segment can be added to. -/
  | flatUrl (url : String)
  | definition (cause : DefinitionError)
  | unreadableBody (fault : JsonFault)
  | tooManyArguments (verb : Verb) (path : String) (expected given : Nat)
  | missingPathArgument (verb : Verb) (path name : String)
  | unknownAction (name : String)

/-- The wording of the error; those that come from a connection or from the text of a body have none
of their own. -/
def ClientError.message : ClientError → Option String
  | request _ => none
  | invalidUrl fault => some ("Invalid URL: " ++ fault.message)
  | flatUrl url => some ("URL " ++ url ++ " cannot carry a path")
  | definition cause =>
    cause.message.map fun text => "Invalid route definition document: " ++ text
  | unreadableBody _ => none
  | tooManyArguments verb path expected given =>
    some (verb.name ++ " " ++ path ++ " takes " ++ String.ofList (natText expected)
      ++ " arguments, " ++ String.ofList (natText given) ++ " given")
  | missingPathArgument verb path name =>
    some (verb.name ++ " " ++ path ++ " needs a value for the path parameter '" ++ name ++ "'")
  | unknownAction name => some ("No action '" ++ name ++ "'")

end Switchboard
