import Switchboard.Proofs.Except
import Switchboard.Server.Service

/-!
# What is bound

A service that was made has one endpoint for each operation of its document, in
the order of the document, and each of them is what binding that operation gives
(`Service.bind_ok`).  So whatever is said about the endpoints of a service can be
said about the operations of its document.
-/

namespace Switchboard

variable {σ : Type} {handlers : Handlers σ}

theorem Endpoint.bind_ok {placed : Placed} {e : Endpoint σ}
    (h : Endpoint.bind handlers placed = .ok e) :
    e.placed = placed ∧ e.template = .ofPath placed.path ∧
      handlers.resolve? placed.operation.target = some e.handler ∧
      strayParameter? placed.operation.inputs (.ofPath placed.path) = none := by
  unfold Endpoint.bind at h
  dsimp only at h
  split at h
  · simp at h
  · rename_i handler hhandler
    split at h
    · simp at h
    · rename_i hstray
      obtain rfl := Except.ok.inj h
      exact ⟨rfl, rfl, hhandler, hstray⟩

theorem Service.bind_ok {definition : Definition} {registry : Registry} {mount : Mount}
    {s : Service σ} (h : Service.bind definition handlers registry mount = .ok s) :
    s.basePath = mount.basePath definition.version ∧ s.definition = definition ∧
      s.registry = registry ∧ s.endpoints.map Endpoint.placed = definition.document.operations ∧
      ∀ e ∈ s.endpoints, Endpoint.bind handlers e.placed = .ok e := by
  obtain ⟨endpoints, hendpoints, h⟩ := exists_of_bind_eq_ok h
  obtain rfl := Except.ok.inj h
  exact ⟨rfl, rfl, rfl, mapM_ok (fun placed e he => (Endpoint.bind_ok he).1) hendpoints⟩

end Switchboard
