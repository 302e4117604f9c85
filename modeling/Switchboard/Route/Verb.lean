import Switchboard.Text.LowerCase

/-!
# Verbs

The six things that can be done at a path, as documents name them. On the wire each is an HTTP
method; a partial update is sent as `PATCH`, which is therefore a second name for `update`.
-/

namespace Switchboard

/-- What an operation does at its path. -/
inductive Verb where
  | get
  | post
  | put
  | update
  | delete
  | head
  deriving DecidableEq, Repr

namespace Verb

/-- All verbs, in the order in which messages list them. -/
def all : List Verb := [get, post, put, update, delete, head]

/-- The name of the verb in a document. -/
def name : Verb → String
  | get => "get"
  | post => "post"
  | put => "put"
  | update => "update"
  | delete => "delete"
  | head => "head"

/-- The verb that a key names, in any letter case. -/
def ofKey? (key : String) : Option Verb :=
  match Text.lowerCase key with
  | "get" => some get
  | "post" => some post
  | "put" => some put
  | "update" | "patch" => some update
  | "delete" => some delete
  | "head" => some head
  | _ => none

/-- The verb of exactly that name. -/
def ofName? (name : String) : Option Verb := all.find? (·.name == name)

/-- The HTTP method of the verb. -/
def method : Verb → String
  | get => "GET"
  | post => "POST"
  | put => "PUT"
  | update => "PATCH"
  | delete => "DELETE"
  | head => "HEAD"

/-- The verb sends its declared body parameters. -/
def carriesBody : Verb → Bool
  | post | put | update => true
  | get | delete | head => false

/-- The wording of the error for a name that is no verb's. -/
def unknownMessage (name : String) : String :=
  "unknown variant `" ++ name ++ "`, expected one of "
    ++ String.intercalate ", " (all.map fun v => "`" ++ v.name ++ "`")

/-- A verb is found under its name. -/
theorem ofName?_name (v : Verb) : ofName? v.name = some v := by
  cases v <;> decide

end Verb

end Switchboard
