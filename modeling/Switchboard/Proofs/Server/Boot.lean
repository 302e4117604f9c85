import Switchboard.Proofs.Entries
import Switchboard.Proofs.Route.Capture
import Switchboard.Proofs.Server.Binding

/-!
# Making a service

Handlers are registered in namespaces, one after another, and an action may come more than once, in
one namespace or in several of its group.  The handler that is found for a target is the one that
was registered last (`Handlers.resolve?_eq_some_iff`).

A service can be made when each operation has a handler and its declared path parameters are in its
path (`Endpoint.exists_bind_eq_ok_iff`); the first operation for which this fails decides the error
(`Service.bind_exact`).
-/

namespace Switchboard

variable {σ : Type}

/-! ## Namespaces -/

/-- Actions that are registered together: those of a group, or of the root where there is none. -/
structure Namespace (σ : Type) where
  group : Option String
  actions : List (String × Handler σ)

namespace Namespace

/-- The namespace is of the target's group and has its action. -/
def Offers (ns : Namespace σ) (t : Target) : Prop :=
  ns.group = t.group ∧ t.action ∈ Entries.keys ns.actions

/-- The namespace has the handler for the target, and none for the same action behind it. -/
def Registers (ns : Namespace σ) (t : Target) (handler : Handler σ) : Prop :=
  ns.group = t.group ∧ ∃ first rest, ns.actions = first ++ (t.action, handler) :: rest ∧
    t.action ∉ Entries.keys rest

/-- What the namespace registers for a target. -/
def action? (ns : Namespace σ) (t : Target) : Option (Handler σ) :=
  if ns.group = t.group then Entries.get? ns.actions.reverse t.action else none

theorem action?_eq_some_iff {ns : Namespace σ} {t : Target} {handler : Handler σ} :
    ns.action? t = some handler ↔ ns.Registers t handler := by
  rw [Registers, ← Entries.get?_reverse_eq_some_iff, action?]
  by_cases hgroup : ns.group = t.group
  · simp [hgroup]
  · simp [hgroup]

theorem action?_eq_none_iff {ns : Namespace σ} {t : Target} :
    ns.action? t = none ↔ ¬ ns.Offers t := by
  rw [action?, Offers]
  by_cases hgroup : ns.group = t.group
  · simp [hgroup, Entries.get?_eq_none_iff, Entries.keys]
  · simp [hgroup]

end Namespace

namespace Handlers

/-- The handlers of namespaces that are registered one after another. -/
def ofNamespaces (namespaces : List (Namespace σ)) : Handlers σ :=
  namespaces.foldl (fun handlers ns => handlers.register ns.group ns.actions) {}

/-- The handler is the one that the namespaces register last for the target. -/
def IsLatest (namespaces : List (Namespace σ)) (t : Target) (handler : Handler σ) : Prop :=
  ∃ before ns after, namespaces = before ++ ns :: after ∧ ns.Registers t handler ∧
    ∀ later ∈ after, ¬ later.Offers t

theorem IsLatest.exists_offers {namespaces : List (Namespace σ)} {t : Target}
    {handler : Handler σ} (h : IsLatest namespaces t handler) :
    ∃ ns ∈ namespaces, ns.Offers t := by
  obtain ⟨before, ns, after, rfl, ⟨hgroup, first, rest, hactions, -⟩, -⟩ := h
  refine ⟨ns, by simp, hgroup, ?_⟩
  rw [hactions]
  simp [Entries.keys]

theorem resolve?_register (handlers : Handlers σ) (ns : Namespace σ) (t : Target) :
    (handlers.register ns.group ns.actions).resolve? t =
      (ns.action? t).or (handlers.resolve? t) := by
  have hlast : ((ns.actions.reverse.map fun entry =>
        ((⟨ns.group, entry.1⟩ : HandlerName), entry.2)).find?
          fun entry => entry.1 == ⟨t.group, t.action⟩).map (·.2) = ns.action? t := by
    rw [List.find?_map, Option.map_map, Namespace.action?, Entries.get?_eq_find?]
    by_cases hgroup : ns.group = t.group
    · have hname : ∀ entry : String × Handler σ,
          ((⟨ns.group, entry.1⟩ : HandlerName) == ⟨t.group, t.action⟩) =
            (entry.1 == t.action) := by
        intro entry
        rw [Bool.eq_iff_iff, beq_iff_eq, beq_iff_eq, HandlerName.mk.injEq]
        exact and_iff_right hgroup
      rw [if_pos hgroup]
      simp only [Function.comp_def, hname]
    · rw [if_neg hgroup]
      simp [Function.comp_def, hgroup]
  rw [← hlast, resolve?, resolve?, find?, find?, register, List.reverse_append, List.find?_append,
    Option.map_or, List.map_reverse]

theorem resolve?_ofNamespaces (namespaces : List (Namespace σ)) (t : Target) :
    (ofNamespaces namespaces).resolve? t = namespaces.reverse.findSome? (·.action? t) := by
  have hfrom : ∀ handlers : Handlers σ,
      (namespaces.foldl (fun handlers ns => handlers.register ns.group ns.actions)
        handlers).resolve? t =
        (namespaces.reverse.findSome? (·.action? t)).or (handlers.resolve? t) := by
    induction namespaces with
    | nil => exact fun handlers => rfl
    | cons ns rest ih =>
        intro handlers
        rw [List.foldl_cons, ih, resolve?_register, List.reverse_cons, List.findSome?_append,
          Option.or_assoc]
        simp
  rw [ofNamespaces, hfrom]
  exact Option.or_none

theorem resolve?_eq_some_iff {namespaces : List (Namespace σ)} {t : Target}
    {handler : Handler σ} :
    (ofNamespaces namespaces).resolve? t = some handler ↔ IsLatest namespaces t handler := by
  rw [resolve?_ofNamespaces, findSome?_reverse_eq_some_iff]
  simp only [Namespace.action?_eq_none_iff, Namespace.action?_eq_some_iff, IsLatest]

theorem resolve?_eq_none_iff {namespaces : List (Namespace σ)} {t : Target} :
    (ofNamespaces namespaces).resolve? t = none ↔ ¬ ∃ ns ∈ namespaces, ns.Offers t := by
  rw [resolve?_ofNamespaces, List.findSome?_eq_none_iff]
  simp only [Namespace.action?_eq_none_iff, List.mem_reverse, not_exists, not_and]

end Handlers

/-! ## Operations -/

namespace Placed

/-- The path of the operation has a parameter of this name. -/
def HasToken (p : Placed) (name : String) : Prop :=
  ':' :: name.toList ∈ pathSegments p.path ∧ name ≠ ""

/-- A handler is registered, and every path parameter with a declaration is in the path. -/
structure Servable (namespaces : List (Namespace σ)) (p : Placed) : Prop where
  handler : ∃ ns ∈ namespaces, ns.Offers p.operation.target
  tokens : ∀ schema, p.operation.inputs.url = some (.schema schema) →
    ∀ name ∈ Entries.keys schema, p.HasToken name

/-- The operation cannot be served, for this cause. -/
inductive Refused (namespaces : List (Namespace σ)) (p : Placed) : BootError → Prop
  | unresolved (hnone : ¬ ∃ ns ∈ namespaces, ns.Offers p.operation.target) :
      Refused namespaces p (.unresolvedHandler p.verb p.path p.operation.target.display)
  | stray {schema : Schema} {first rest : List String} {name : String}
      (hhandler : ∃ ns ∈ namespaces, ns.Offers p.operation.target)
      (hurl : p.operation.inputs.url = some (.schema schema))
      (hkeys : Entries.keys schema = first ++ name :: rest)
      (hfirst : ∀ other ∈ first, p.HasToken other) (hname : ¬ p.HasToken name) :
      Refused namespaces p (.unknownPathParameter p.verb p.path name)

end Placed

namespace Endpoint

variable {p : Placed} {namespaces : List (Namespace σ)}

theorem contains_parameterNames_iff {name : String} :
    (Template.ofPath p.path).parameterNames.contains name = true ↔ p.HasToken name := by
  rw [List.contains_iff_mem, Template.mem_parameterNames_iff, Placed.HasToken]

theorem strayParameter?_eq_some_iff {name : String} :
    strayParameter? p.operation.inputs (.ofPath p.path) = some name ↔
      ∃ schema, p.operation.inputs.url = some (.schema schema) ∧
        ∃ first rest, Entries.keys schema = first ++ name :: rest ∧
          (∀ other ∈ first, p.HasToken other) ∧ ¬ p.HasToken name := by
  simp only [← contains_parameterNames_iff]
  unfold strayParameter?
  split
  · rename_i schema hurl
    rw [List.find?_eq_some_iff_append]
    constructor
    · rintro ⟨hname, first, rest, hkeys, hfirst⟩
      exact ⟨schema, hurl, first, rest, hkeys, by simpa using hfirst, by simpa using hname⟩
    · rintro ⟨other, hother, first, rest, hkeys, hfirst, hname⟩
      obtain rfl : schema = other := UrlInputs.schema.inj (Option.some.inj (hurl.symm.trans hother))
      exact ⟨by simpa using hname, first, rest, hkeys, by simpa using hfirst⟩
  · rename_i hother
    constructor
    · exact fun h => nomatch h
    · rintro ⟨schema, hurl, -⟩
      exact absurd hurl (hother schema)

theorem strayParameter?_eq_none_iff :
    strayParameter? p.operation.inputs (.ofPath p.path) = none ↔
      ∀ schema, p.operation.inputs.url = some (.schema schema) →
        ∀ name ∈ Entries.keys schema, p.HasToken name := by
  simp only [← contains_parameterNames_iff]
  unfold strayParameter?
  split
  · rename_i schema hurl
    rw [hurl, List.find?_eq_none]
    simp
  · rename_i hother
    exact ⟨fun _ schema hurl => absurd hurl (hother schema), fun _ => rfl⟩

theorem exists_bind_eq_ok_iff :
    (∃ e, Endpoint.bind (.ofNamespaces namespaces) p = .ok e) ↔ p.Servable namespaces := by
  constructor
  · rintro ⟨e, he⟩
    obtain ⟨-, -, hhandler, hstray⟩ := bind_ok he
    exact ⟨(Handlers.resolve?_eq_some_iff.1 hhandler).exists_offers,
      strayParameter?_eq_none_iff.1 hstray⟩
  · rintro ⟨hhandler, htokens⟩
    unfold Endpoint.bind
    dsimp only
    cases hresolve : (Handlers.ofNamespaces namespaces).resolve? p.operation.target with
    | none => exact absurd hhandler (Handlers.resolve?_eq_none_iff.1 hresolve)
    | some handler =>
        rw [strayParameter?_eq_none_iff.2 htokens]
        exact ⟨_, rfl⟩

theorem bind_eq_error_iff {cause : BootError} :
    Endpoint.bind (.ofNamespaces namespaces) p = .error cause ↔ p.Refused namespaces cause := by
  unfold Endpoint.bind
  dsimp only
  cases hresolve : (Handlers.ofNamespaces namespaces).resolve? p.operation.target with
  | none =>
      have hnone := Handlers.resolve?_eq_none_iff.1 hresolve
      constructor
      · intro h
        cases h
        exact .unresolved hnone
      · intro h
        cases h with
        | unresolved => rfl
        | stray hhandler => exact absurd hhandler hnone
  | some handler =>
      have hhandler := (Handlers.resolve?_eq_some_iff.1 hresolve).exists_offers
      dsimp only
      constructor
      · intro h
        split at h
        · rename_i name hstray
          cases h
          obtain ⟨schema, hurl, first, rest, hkeys, hfirst, hname⟩ :=
            strayParameter?_eq_some_iff.1 hstray
          exact .stray hhandler hurl hkeys hfirst hname
        · cases h
      · intro h
        cases h with
        | unresolved hnone => exact absurd hhandler hnone
        | stray _ hurl hkeys hfirst hname =>
            rw [strayParameter?_eq_some_iff.2 ⟨_, hurl, _, _, hkeys, hfirst, hname⟩]

end Endpoint

namespace Service

theorem bind_eq (definition : Definition) (handlers : Handlers σ) (registry : Registry)
    (mount : Mount) :
    Service.bind definition handlers registry mount =
      (definition.document.operations.mapM (Endpoint.bind handlers)).map fun endpoints =>
        { basePath := mount.basePath definition.version, definition, registry, endpoints } := by
  unfold Service.bind
  cases definition.document.operations.mapM (Endpoint.bind handlers) with
  | error cause => rfl
  | ok endpoints => rfl

/--
**Boot**: a service is made exactly when each operation has a handler in some namespace of its group
and all its declared path parameters in its path.  It then has one endpoint for each operation, in
their order, each with the handler that was registered last; otherwise the first operation that
cannot be served is the cause.
-/
theorem bind_exact (definition : Definition) (namespaces : List (Namespace σ))
    (registry : Registry) (mount : Mount) :
    ((∃ s, Service.bind definition (.ofNamespaces namespaces) registry mount = .ok s) ↔
      ∀ p ∈ definition.document.operations, p.Servable namespaces) ∧
    (∀ s, Service.bind definition (.ofNamespaces namespaces) registry mount = .ok s →
      s.endpoints.map Endpoint.placed = definition.document.operations ∧
      ∀ e ∈ s.endpoints, e.template = .ofPath e.placed.path ∧
        Handlers.IsLatest namespaces e.placed.operation.target e.handler) ∧
    ∀ cause, Service.bind definition (.ofNamespaces namespaces) registry mount = .error cause ↔
      ∃ before p after, definition.document.operations = before ++ p :: after ∧
        (∀ earlier ∈ before, earlier.Servable namespaces) ∧ p.Refused namespaces cause := by
  refine ⟨?_, fun s hs => ?_, fun cause => ?_⟩
  · rw [bind_eq, exists_map_eq_ok_iff, exists_mapM_eq_ok_iff]
    simp only [Endpoint.exists_bind_eq_ok_iff]
  · obtain ⟨-, -, -, hplaced, hbound⟩ := bind_ok hs
    refine ⟨hplaced, fun e he => ?_⟩
    obtain ⟨-, htemplate, hresolve, -⟩ := Endpoint.bind_ok (hbound e he)
    exact ⟨htemplate, Handlers.resolve?_eq_some_iff.1 hresolve⟩
  · rw [bind_eq, map_eq_error_iff, mapM_eq_error_iff]
    simp only [Endpoint.exists_bind_eq_ok_iff, Endpoint.bind_eq_error_iff]

/-- A handler with one answer. -/
def answering (text : String) : Handler Unit := fun _ => .done (.returned (.string text))

/-- An action that comes twice in one namespace and once more in a later one of the same group, and
another action that only the earlier one has. -/
def overlapping : List (Namespace Unit) :=
  [⟨some "users", [("list", answering "first"), ("show", answering "shown"),
      ("list", answering "second")]⟩,
    ⟨none, [("list", answering "root")]⟩, ⟨some "users", [("list", answering "third")]⟩]

/-- `GET` of a path, for an action of `users`, with the declared path parameters. -/
def usersAt (path action : String) (tokens : List String) : Placed where
  path := path
  verb := .get
  operation :=
    { target := { group := some "users", action }
      inputs := { url := some (.schema (tokens.map fun token => (token, {}))) } }

/-- A definition of such operations. -/
def usersDefinition (placed : List Placed) : Definition where
  raw := .null
  document := { version := 1, routes := placed.map fun p => (p.path, ⟨[(p.verb, p.operation)]⟩) }

/-- Two operations of which the first has declared tokens that are not in its path, and the second
no handler. -/
def misspelled : List Placed :=
  [usersAt "users/:id" "show" ["id", "ID", "name"], usersAt "users" "remove" []]

theorem bind_overlapping :
    (∃ s, Service.bind (usersDefinition [usersAt "users/:id" "show" ["id"],
        usersAt "users" "list" []]) (.ofNamespaces overlapping) {} { prefixPath := "users" } =
          .ok s ∧
      s.endpoints.map Endpoint.handler = [answering "shown", answering "third"] ∧
      ∀ e ∈ s.endpoints, Handlers.IsLatest overlapping e.placed.operation.target e.handler) ∧
    Service.bind (usersDefinition misspelled) (.ofNamespaces overlapping) {}
      { prefixPath := "users" } = .error (.unknownPathParameter .get "users/:id" "ID") := by
  constructor
  · obtain ⟨s, hs, hhandlers⟩ : ∃ s, Service.bind (usersDefinition
        [usersAt "users/:id" "show" ["id"], usersAt "users" "list" []])
          (.ofNamespaces overlapping) {} { prefixPath := "users" } = .ok s ∧
        s.endpoints.map Endpoint.handler = [answering "shown", answering "third"] :=
      ⟨_, rfl, rfl⟩
    obtain ⟨-, hbound, -⟩ := bind_exact (usersDefinition [usersAt "users/:id" "show" ["id"],
      usersAt "users" "list" []]) overlapping {} { prefixPath := "users" }
    exact ⟨s, hs, hhandlers, fun e he => ((hbound s hs).2 e he).2⟩
  · obtain ⟨-, -, hrefused⟩ := bind_exact (usersDefinition misspelled) overlapping {}
      { prefixPath := "users" }
    have hshow : ∃ ns ∈ overlapping, ns.Offers ⟨some "users", "show", none⟩ :=
      ⟨_, List.mem_cons_self, rfl, by decide⟩
    have hkeys : ["id", "ID", "name"] = ["id"] ++ "ID" :: ["name"] := rfl
    refine (hrefused _).2 ⟨[], _, _, rfl, by simp, .stray hshow rfl hkeys ?_ ?_⟩
    · intro other hother
      obtain rfl := List.mem_singleton.1 hother
      exact ⟨by decide, by decide⟩
    · exact fun htoken => absurd htoken.1 (by decide)

end Service

end Switchboard
