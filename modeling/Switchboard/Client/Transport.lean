import Switchboard.Client.Action
import Switchboard.Server.Wire

/-!
# Transports

A transport carries the requests of a client to servers and brings back what they answer. It is a
function over the state of the servers: `Transport.direct` hands every request to one router, as if
that were the server of all URLs, and `Transport.unreachable` finds no server at all.
-/

namespace Switchboard

/-- Sends a request; the answer is `none` where no server is reached. -/
abbrev Transport (σ : Type) := Prepared → σ → Option WireResponse × σ

namespace Prepared

/-- The request as it is on the wire. -/
def toWire (p : Prepared) : WireRequest :=
  { method := p.method
    target := String.ofList p.url.target
    headers := match p.body with
      | some _ => [(Response.contentType, Response.jsonType)]
      | none => []
    body := p.body.map Json.text }

end Prepared

namespace Transport

variable {σ : Type}

/-- No server is reached. -/
def unreachable : Transport σ := fun _ store => (none, store)

/-- All requests reach one router. The answer to `HEAD` comes without its body. -/
def direct (router : Router σ) : Transport σ := fun p store =>
  let (response, after) := Wire.serve router p.toWire store
  (some (if p.method = Verb.head.method then { response with body := "" } else response), after)

/-- What a request comes to: the text of an answer that is no error. -/
def send (transport : Transport σ) (p : Prepared) (store : σ) : Except ClientError String × σ :=
  match transport p store with
  | (none, after) => (.error (.request none), after)
  | (some response, after) =>
    if 400 ≤ response.status ∧ response.status < 600 then
      (.error (.request (some response.status)), after)
    else (.ok response.body, after)

end Transport

end Switchboard
