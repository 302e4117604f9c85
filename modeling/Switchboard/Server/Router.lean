import Switchboard.Http.Message

/-!
# Routers

A router answers a request or leaves it alone. It acts on an `Exchange`: the request, of which it
may take the body, and the store of the handlers. Routers stand in a row, and the first that answers
is the one that counts; where none answers, the request is answered with status 404.
-/

namespace Switchboard

/-- A request under way, and the store of the handlers. -/
structure Exchange (σ : Type) where
  request : Request
  store : σ

/-- Answers a request, or leaves it to others. -/
abbrev Router (σ : Type) := Exchange σ → Option Response × Exchange σ

namespace Router

variable {σ : Type}

/-- The response to a request that no router answers. -/
def notFound : Response := .empty 404 {}

/-- The answer of the first router that gives one. -/
def firstOf : List (Router σ) → Router σ
  | [], exchange => (none, exchange)
  | router :: rest, exchange =>
    match router exchange with
    | (some response, after) => (some response, after)
    | (none, after) => firstOf rest after

/-- The answer of the first router that gives one, and status 404 where none does. -/
def composite (routers : List (Router σ)) : Router σ := fun exchange =>
  match firstOf routers exchange with
  | (some response, after) => (some response, after)
  | (none, after) => (some notFound, after)

end Router

end Switchboard
