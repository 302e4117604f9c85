import Switchboard.Proofs.Server.Outcome
import Switchboard.Proofs.Server.Selection

/-!
# Asking for a response without its body

`HEAD` asks for what `GET` would answer, less the body.  Where no operation is declared for
`HEAD` itself, a service takes the very operation that `GET` goes to, and it shows the document
to both methods.  The run of a handler that does not look at the method takes the same steps
then and ends in the same way, so its response has been made in full, status, form and all,
before the body goes (`route_head`).

A handler can learn the method from the request alone.  One that is handed neither the request
nor a part of it does not look at the method (`Endpoint.ignoresMethod_of_mapping`).
-/

namespace Switchboard

variable {σ : Type}

namespace Exchange

/-- The same request with another method. -/
def asking (exchange : Exchange σ) (method : String) : Exchange σ :=
  { exchange with request := { exchange.request with method } }

@[simp] theorem path_asking (exchange : Exchange σ) (method : String) :
    (exchange.asking method).request.path = exchange.request.path := rfl

@[simp] theorem method_asking (exchange : Exchange σ) (method : String) :
    (exchange.asking method).request.method = method := rfl

end Exchange

namespace Endpoint

variable {e : Endpoint σ} {registry : Registry}

/-- Whatever the method of a request is, the handler takes the same steps, ends in the same way and
leaves the same store. -/
def IgnoresMethod (e : Endpoint σ) (registry : Registry) : Prop :=
  ∀ (pathParameters : Entries Json) (exchange : Exchange σ) (method : String),
    e.follow registry pathParameters (exchange.asking method) =
      e.follow registry pathParameters exchange

/-- A handler that goes by its arguments, none of which is the request or a part of it. -/
theorem ignoresMethod_of_mapping
    (hhandler : ∀ a b : Arguments, a.names = b.names → a.values = b.values →
      e.handler a = e.handler b)
    (hmapping : ∀ name ∈ e.placed.operation.target.serverMapping,
      name ≠ contextName ∧ Text.dropStart? Arguments.contextStart name.toList = none) :
    e.IgnoresMethod registry := by
  intro pathParameters exchange method
  have hrun : e.run registry pathParameters (exchange.asking method).request =
      e.run registry pathParameters exchange.request := by
    refine hhandler _ _ rfl ?_
    unfold arguments Arguments.bind
    apply List.map_congr_left
    intro name hname
    obtain ⟨hcontext, hpart⟩ := hmapping name hname
    rw [Arguments.resolve, Arguments.resolve, if_neg hcontext, if_neg hcontext, hpart]
    rfl
  rw [follow, follow, hrun]
  rfl

theorem dispatch_asking (h : e.IgnoresMethod registry) (pathParameters : Entries Json)
    (exchange : Exchange σ) (method : String) :
    e.dispatch registry pathParameters (exchange.asking method) =
      ((e.dispatch registry pathParameters exchange).1,
        (e.dispatch registry pathParameters exchange).2.asking method) := by
  rw [dispatch_eq, dispatch_eq, h]
  rfl

end Endpoint

namespace Service

variable {s : Service σ} {exchange : Exchange σ} {e : Endpoint σ} {captured : Entries Json}
  {relative : String}

/-- An operation for `HEAD` itself is declared at the path. -/
def DeclaresHead (s : Service σ) (path : String) : Prop :=
  ∃ relative, Mount.relative? s.basePath path = some relative ∧
    ∃ e ∈ s.endpoints, e.placed.verb = .head ∧ (e.template.capture? relative).isSome = true

theorem find?_head_of_not_declared (h : ¬ s.DeclaresHead exchange.request.path)
    (hrelative : Mount.relative? s.basePath exchange.request.path = some relative) :
    s.find? "HEAD" relative = none := by
  rw [find?, List.findSome?_eq_none_iff]
  intro e he
  by_cases hmethod : e.method = "HEAD"
  · rw [if_pos hmethod, Option.map_eq_none_iff]
    have hverb : e.placed.verb = .head := by
      revert hmethod
      show e.placed.verb.method = "HEAD" → e.placed.verb = .head
      cases e.placed.verb <;> decide
    cases hcapture : e.template.capture? relative with
    | none => rfl
    | some captured =>
        exact absurd ⟨relative, hrelative, e, he, hverb, by rw [hcapture]; rfl⟩ h
  · exact if_neg hmethod

/-- `HEAD` falls back to what `GET` goes to. -/
theorem select?_head (h : s.find? "HEAD" relative = none) :
    s.select? "HEAD" relative = s.select? "GET" relative := by
  have hhead : s.select? "HEAD" relative = s.find? "GET" relative := by
    rw [select?, h]
    rfl
  have hget : s.select? "GET" relative = s.find? "GET" relative := by
    rw [select?]
    cases s.find? "GET" relative with
    | none => rfl
    | some found => rfl
  rw [hhead, hget]

theorem mem_of_find? {method : String} (h : s.find? method relative = some (e, captured)) :
    e ∈ s.endpoints := by
  obtain ⟨other, hother, hpair⟩ := List.exists_of_findSome?_eq_some h
  split at hpair
  · obtain ⟨values, -, heq⟩ := Option.map_eq_some_iff.1 hpair
    obtain rfl := (Prod.mk.inj heq).1
    exact hother
  · simp at hpair

/-- What is selected is an operation of the service. -/
theorem mem_of_select? {method : String} (h : s.select? method relative = some (e, captured)) :
    e ∈ s.endpoints := by
  unfold select? at h
  split at h
  · rename_i found hfound
    exact mem_of_find? (hfound.trans h)
  · split at h
    · exact mem_of_find? h
    · simp at h

theorem serve_head (h : e.IgnoresMethod s.registry) :
    (s.serve e captured (exchange.asking "HEAD")).1 =
        (s.serve e captured (exchange.asking "GET")).1.map
          (fun response => { response with body := none }) ∧
      (s.serve e captured (exchange.asking "HEAD")).2 =
        (s.serve e captured (exchange.asking "GET")).2.asking "HEAD" := by
  have hdispatch := Endpoint.dispatch_asking h captured exchange
  rw [serve, serve, hdispatch, hdispatch]
  exact ⟨rfl, rfl⟩

/-! ## The two methods side by side -/

theorem route_of_outside (h : Mount.relative? s.basePath exchange.request.path = none) :
    s.route exchange = (none, exchange) := by
  rw [route_eq, h]

theorem route_of_shows
    (hrelative : Mount.relative? s.basePath exchange.request.path = some relative)
    (hshows : ShowsDocument exchange.request.method relative) :
    s.route exchange =
      (some (finish exchange.request.method (.json 200 s.definition.raw {})), exchange) := by
  rw [route_eq, hrelative]
  exact if_pos hshows

theorem route_of_not_shows
    (hrelative : Mount.relative? s.basePath exchange.request.path = some relative)
    (hshows : ¬ ShowsDocument exchange.request.method relative) :
    s.route exchange =
      match s.select? exchange.request.method relative with
      | none => (none, exchange)
      | some (e, captured) => s.serve e captured exchange := by
  rw [route_eq, hrelative]
  exact if_neg hshows

/--
**`HEAD` answers like `GET`**: where no operation is declared for `HEAD` itself and no run depends
on the method, `HEAD` is answered if `GET` is, with the same status and the same headers in the same
order, and with no body.  Both leave the same behind.
-/
theorem route_head (hnone : ¬ s.DeclaresHead exchange.request.path)
    (hrun : ∀ e ∈ s.endpoints, e.IgnoresMethod s.registry) :
    let head := s.route (exchange.asking "HEAD")
    let get := s.route (exchange.asking "GET")
    head.1 = get.1.map (fun response => { response with body := none }) ∧
      head.2 = get.2.asking "HEAD" := by
  intro head get
  cases hrelative : Mount.relative? s.basePath exchange.request.path with
  | none =>
      have hhead : head = (none, exchange.asking "HEAD") := route_of_outside hrelative
      have hget : get = (none, exchange.asking "GET") := route_of_outside hrelative
      rw [hhead, hget]
      exact ⟨rfl, rfl⟩
  | some relative =>
      by_cases hdocument : isDocumentPath relative = true
      · have hhead : head = (some (finish "HEAD" (.json 200 s.definition.raw {})),
            exchange.asking "HEAD") := route_of_shows hrelative ⟨.inr rfl, hdocument⟩
        have hget : get = (some (finish "GET" (.json 200 s.definition.raw {})),
            exchange.asking "GET") := route_of_shows hrelative ⟨.inl rfl, hdocument⟩
        rw [hhead, hget]
        exact ⟨rfl, rfl⟩
      · have hroute : ∀ method, s.route (exchange.asking method) =
            match s.select? method relative with
            | none => (none, exchange.asking method)
            | some (e, captured) => s.serve e captured (exchange.asking method) :=
          fun method => route_of_not_shows hrelative fun hshows => hdocument hshows.2
        have hhead : head = _ := hroute "HEAD"
        have hget : get = _ := hroute "GET"
        rw [hhead, hget, select?_head (find?_head_of_not_declared hnone hrelative)]
        cases hfound : s.select? "GET" relative with
        | none => exact ⟨rfl, rfl⟩
        | some found =>
            obtain ⟨e, captured⟩ := found
            exact serve_head (hrun e (mem_of_select? hfound))

/-- `GET` of a user. -/
def userOperation : Placed where
  path := "users/:id"
  verb := .get
  operation :=
    { target := { action := "show", mapping := some ["id"] }
      inputs := { url := some (.flag true) } }

/-- An operation for `HEAD` itself, at another path. -/
def healthOperation : Placed where
  path := "health"
  verb := .head
  operation := { target := { action := "check" } }

/-- The definition of an API with the two operations. -/
def roster : Definition where
  raw := .null
  document :=
    { version := 1
      routes := [userOperation, healthOperation].map fun placed =>
        (placed.path, ⟨[(placed.verb, placed.operation)]⟩) }

/-- Names the user in a header and then fails. -/
def nameUser : Handler Unit := fun a =>
  let id := match a.values with
    | [.value (.string id)] => id
    | _ => ""
  .setHeader "X-User" id (.done (.failed (.message "gone")))

/-- Handlers for the roster. -/
def rosterHandlers : Handlers Unit :=
  Handlers.register {} none [("show", nameUser), ("check", fun _ => .done (.returned .null))]

/-- A request for a user. -/
def askUser : Exchange Unit where
  request :=
    { method := "GET", path := "/api/shop/v1/users/42", query := .object [], headers := {},
      body := .null }
  store := ()

theorem roster_head :
    ∃ s : Service Unit, Service.bind roster rosterHandlers {} { prefixPath := "shop" } = .ok s ∧
      ¬ s.DeclaresHead askUser.request.path ∧ (∀ e ∈ s.endpoints, e.IgnoresMethod s.registry) ∧
      (s.route (askUser.asking "HEAD")).1 =
        some ⟨500, ⟨[("x-user", "42"), ("content-type", "application/json")]⟩, none⟩ := by
  obtain ⟨s, hs, hrelative, hget, hendpoints⟩ : ∃ s : Service Unit,
      Service.bind roster rosterHandlers {} { prefixPath := "shop" } = .ok s ∧
      Mount.relative? s.basePath askUser.request.path = some "/users/42" ∧
      (s.route (askUser.asking "GET")).1 =
        some ⟨500, ⟨[("x-user", "42"), ("content-type", "application/json")]⟩,
          some (Json.object [("message", .string "gone")]).text⟩ ∧
      s.endpoints = [⟨userOperation, .ofPath "users/:id", nameUser⟩,
        ⟨healthOperation, .ofPath "health", fun _ => .done (.returned .null)⟩] :=
    ⟨_, rfl, by decide, by decide, rfl⟩
  have hnone : ¬ s.DeclaresHead askUser.request.path := by
    rintro ⟨relative, hbelow, e, he, hverb, hfits⟩
    rw [hrelative] at hbelow
    obtain rfl := Option.some.inj hbelow
    simp only [hendpoints, List.mem_cons, List.not_mem_nil, or_false] at he
    rcases he with rfl | rfl
    · exact absurd hverb (by decide)
    · exact absurd hfits (by decide)
  have hrun : ∀ e ∈ s.endpoints, e.IgnoresMethod s.registry := by
    intro e he
    simp only [hendpoints, List.mem_cons, List.not_mem_nil, or_false] at he
    rcases he with rfl | rfl
    · refine Endpoint.ignoresMethod_of_mapping (fun a b _ hvalues => ?_) (by decide)
      show nameUser a = nameUser b
      rw [nameUser, nameUser, hvalues]
    · exact Endpoint.ignoresMethod_of_mapping (fun _ _ _ _ => rfl) (by decide)
  have hmirror := (route_head hnone hrun).1
  exact ⟨s, hs, hnone, hrun, by rw [hmirror, hget]; rfl⟩

end Service

end Switchboard
