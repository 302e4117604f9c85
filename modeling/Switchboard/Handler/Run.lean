import Switchboard.Handler.Arguments

/-!
# Handlers

A handler answers a call with a `Run`: the steps that it takes and how it ends. While it runs it
shapes the response (status, headers, body), and it may read and write a store that all handlers of
a server share; nothing else it does can be seen. It ends by returning a value, by failing or by
crashing.

`Run.exec` carries a run out on the response so far.
-/

namespace Switchboard

/-- How a handler ended. -/
inductive Outcome where
  | returned (value : Json)
  | failed (error : HandlerError)
  /-- The handler crashed, with a message or without one. -/
  | crashed (message : Option String)

/-- The response that a handler shapes. -/
structure Draft where
  status : Nat := 200
  body : Option Json := none
  headers : Headers := {}

/-- What a handler does, step by step, over a store of type `σ`. -/
inductive Run (σ : Type) where
  | done (outcome : Outcome)
  | setStatus (status : Nat) (next : Run σ)
  | setHeader (name value : String) (next : Run σ)
  | setBody (body : Json) (next : Run σ)
  /-- Takes the body out of the response. -/
  | takeBody (next : Option Json → Run σ)
  | readStore (next : σ → Run σ)
  | writeStore (store : σ) (next : Run σ)

/-- A handler. -/
abbrev Handler (σ : Type) := Arguments → Run σ

namespace Run

variable {σ : Type}

/-- Carries out a run: how it ends, the store it leaves and the response it leaves. -/
def exec : Run σ → σ → Draft → Outcome × σ × Draft
  | done outcome, store, draft => (outcome, store, draft)
  | setStatus status next, store, draft => next.exec store { draft with status }
  | setHeader name value next, store, draft =>
    next.exec store { draft with headers := draft.headers.replace name value }
  | setBody body next, store, draft => next.exec store { draft with body := some body }
  | takeBody next, store, draft => (next draft.body).exec store { draft with body := none }
  | readStore next, store, draft => (next store).exec store draft
  | writeStore store next, _, draft => next.exec store draft

end Run

/-! ## Handlers by name -/

/-- The name of a handler. -/
structure HandlerName where
  group : Option String
  action : String
  deriving DecidableEq, Repr

/-- The handlers that are known, in the order of their registration. -/
structure Handlers (σ : Type) where
  entries : List (HandlerName × Handler σ) := []

namespace Handlers

variable {σ : Type}

/-- Registers the actions of a group, or of the root where there is none. -/
def register (h : Handlers σ) (group : Option String) (actions : List (String × Handler σ)) :
    Handlers σ :=
  ⟨h.entries ++ actions.map fun (action, handler) => (⟨group, action⟩, handler)⟩

/-- The handler that was registered last for a name. -/
def find? (h : Handlers σ) (name : HandlerName) : Option (Handler σ) :=
  (h.entries.reverse.find? fun entry => entry.1 == name).map (·.2)

/-- The handler of a target. -/
def resolve? (h : Handlers σ) (target : Target) : Option (Handler σ) :=
  h.find? ⟨target.group, target.action⟩

end Handlers

end Switchboard
