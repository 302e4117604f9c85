import Switchboard.Client.Transport
import Switchboard.Url.Parser

/-!
# Clients

A `Client` offers the operations of a document as actions. The actions of handlers without a group
are found under their names, the others under the name of the group, a dot and their own name. Where
several operations have the same handler, the last one counts.

`Client.load` fetches the document from the place where a server shows it, so that a client needs to
know nothing but the URL of an API.
-/

namespace Switchboard

/-- The actions of a document served under a URL. -/
structure Client where
  base : Url
  definition : Definition
  /-- The actions without a group. -/
  actions : Entries Action := []
  groups : Entries (Entries Action) := []

namespace Client

/-- Adds the action of an operation. -/
def add (c : Client) (p : Placed) : Client :=
  let action := Action.ofPlaced c.base p
  let name := p.operation.target.action
  match p.operation.target.group with
  | some group =>
    let others := (Entries.get? c.groups group).getD []
    { c with groups := Entries.set c.groups group (Entries.set others name action) }
  | none => { c with actions := Entries.set c.actions name action }

/-- The client for a document served under a URL. -/
def ofDefinition (base : Url) (definition : Definition) : Client :=
  definition.document.operations.foldl add { base, definition }

/-- The action without a group of that name. -/
def action? (c : Client) (name : String) : Option Action := Entries.get? c.actions name

/-- The actions of a group. -/
def group? (c : Client) (name : String) : Option (Entries Action) := Entries.get? c.groups name

/-- The action under a name, with that of its group before the first dot. -/
def find? (c : Client) (name : String) : Option Action :=
  match Text.splitOnce '.' name.toList with
  | some (group, action) =>
    (c.group? (String.ofList group)).bind (Entries.get? · (String.ofList action))
  | none => c.action? name

/-! ## Calling -/

/-- The request that a call sends. -/
def prepare (c : Client) (name : String) (arguments : List Json) : Except ClientError Prepared :=
  match c.find? name with
  | some action => action.prepare arguments
  | none => .error (.unknownAction name)

/-- The value in the text of an answer; no text is `null`. -/
def readAnswer (text : String) : Except ClientError Json :=
  if text = "" then .ok .null else (Json.read text).mapError .unreadableBody

/-- Calls an action. -/
def call {σ : Type} (c : Client) (transport : Transport σ) (name : String) (arguments : List Json)
    (store : σ) : Except ClientError Json × σ :=
  match c.prepare name arguments with
  | .error e => (.error e, store)
  | .ok request =>
    let (answer, after) := transport.send request store
    (answer.bind readAnswer, after)

/-! ## Loading -/

/-- The name under which a server shows its document. -/
def documentName : List Char := ['a', 'p', 'i', '.', 'j', 's', 'o', 'n']

/-- The URL of an API, with a slash at its end. -/
def readBase (url : String) : Except ClientError Url :=
  match Url.parse url with
  | .error fault => .error (.invalidUrl fault)
  | .ok base => if base.hasSegments then .ok base.withSlash else .error (.flatUrl url)

/-- The client for the document that a server shows under a URL. -/
def load {σ : Type} (transport : Transport σ) (url : String) (store : σ) :
    Except ClientError Client × σ :=
  match readBase url with
  | .error e => (.error e, store)
  | .ok base =>
    let request : Prepared :=
      { method := Verb.get.method, url := base.sibling documentName, body := none }
    let (answer, after) := transport.send request store
    let loaded := answer.bind fun text =>
      (Definition.ofText text).mapError ClientError.definition
    (loaded.map (ofDefinition base), after)

end Client

end Switchboard
