import Switchboard.Proofs.Server.Selection

/-!
# Services side by side

Several services stand in a row, and each of them sees the request only if those before
it have left it alone.  A service that gives no answer leaves the exchange as it was, its
body included, and one that answers has been asked below its base path.

So where no base path lies below another, at most one service answers, and it answers the
request that came in.  The order in which they are asked is of no account
(`composite_isolated`).
-/

namespace Switchboard

variable {σ : Type}

namespace Router

variable {routers : List (Router σ)} {router : Router σ} {exchange : Exchange σ}
  {response : Response}

/-- The router leaves the exchange to others as it is. -/
def LeavesAlone (router : Router σ) (exchange : Exchange σ) : Prop :=
  router exchange = (none, exchange)

theorem firstOf_of_leavesAlone (h : ∀ r ∈ routers, LeavesAlone r exchange) :
    firstOf routers exchange = (none, exchange) := by
  induction routers with
  | nil => rfl
  | cons first rest ih =>
      rw [firstOf, h first List.mem_cons_self]
      exact ih fun r hr => h r (List.mem_cons_of_mem first hr)

/-- A router that answers is the one that counts, if no other one of the row does more than leave
the exchange alone. -/
theorem firstOf_of_answers (hrouter : router ∈ routers)
    (hanswer : (router exchange).1 = some response)
    (hothers : ∀ r ∈ routers, r = router ∨ LeavesAlone r exchange) :
    firstOf routers exchange = router exchange := by
  induction routers with
  | nil => exact absurd hrouter List.not_mem_nil
  | cons first rest ih =>
      rw [firstOf]
      -- the first one is the router itself, or the router stands further down
      rcases hothers first List.mem_cons_self with rfl | halone
      · have hpair : first exchange = (some response, (first exchange).2) := by rw [← hanswer]
        rw [hpair]
      · have hrest : router ∈ rest := by
          rcases List.mem_cons.1 hrouter with rfl | hrest
          · rw [halone] at hanswer
            exact absurd hanswer (by simp)
          · exact hrest
        rw [halone]
        exact ih hrest fun r hr => hothers r (List.mem_cons_of_mem first hr)

theorem composite_of_leavesAlone (h : ∀ r ∈ routers, LeavesAlone r exchange) :
    composite routers exchange = (some notFound, exchange) := by
  rw [composite, firstOf_of_leavesAlone h]

theorem composite_of_answers (hrouter : router ∈ routers)
    (hanswer : (router exchange).1 = some response)
    (hothers : ∀ r ∈ routers, r = router ∨ LeavesAlone r exchange) :
    composite routers exchange = router exchange := by
  have hpair : router exchange = (some response, (router exchange).2) := by rw [← hanswer]
  rw [composite, firstOf_of_answers hrouter hanswer hothers, hpair]

end Router

namespace Service

variable {s t : Service σ} {services order : List (Service σ)} {exchange : Exchange σ}
  {response : Response}

/-- The segments with which every path of the service begins. -/
def segments (s : Service σ) : List (List Char) := pathSegments s.basePath

theorem segments_of_bind {definition : Definition} {handlers : Handlers σ} {registry : Registry}
    {mount : Mount} (h : Service.bind definition handlers registry mount = .ok s) :
    s.segments = mount.segments definition.version := by
  rw [segments, (Service.bind_ok h).1, Mount.pathSegments_basePath]

/-- Neither service lies below the other. -/
def Apart (s t : Service σ) : Prop := ¬ s.segments <+: t.segments ∧ ¬ t.segments <+: s.segments

theorem Apart.symm (h : s.Apart t) : t.Apart s := And.symm h

/-- A service leaves the exchange alone, or it has been asked below its base path and answers. -/
theorem leavesAlone_or_answers (s : Service σ) (exchange : Exchange σ) :
    Router.LeavesAlone s.route exchange ∨
      (∃ relative, Mount.relative? s.basePath exchange.request.path = some relative) ∧
        (s.route exchange).1.isSome = true := by
  rw [Router.LeavesAlone, route_eq]
  cases hrelative : Mount.relative? s.basePath exchange.request.path with
  | none => exact .inl rfl
  | some relative =>
      dsimp only
      by_cases hshows : ShowsDocument exchange.request.method relative
      · rw [if_pos hshows]
        exact .inr ⟨⟨relative, rfl⟩, rfl⟩
      · rw [if_neg hshows]
        cases s.select? exchange.request.method relative with
        | none => exact .inl rfl
        | some found => exact .inr ⟨⟨relative, rfl⟩, rfl⟩

theorem leavesAlone_of_route_eq_none (h : (s.route exchange).1 = none) :
    Router.LeavesAlone s.route exchange := by
  rcases leavesAlone_or_answers s exchange with halone | ⟨-, hanswers⟩
  · exact halone
  · rw [h] at hanswers
    exact absurd hanswers (by decide)

theorem segments_prefix_of_route (h : (s.route exchange).1 = some response) :
    s.segments <+: pathSegments exchange.request.path := by
  rcases leavesAlone_or_answers s exchange with halone | ⟨⟨relative, hrelative⟩, -⟩
  · rw [halone] at h
    exact absurd h (by simp)
  · rw [Mount.pathSegments_of_relative?_eq_some hrelative]
    exact List.prefix_append _ _

/-- Of two services that are apart one gives no answer. -/
theorem Apart.route_eq_none (h : s.Apart t) (hs : (s.route exchange).1 = some response) :
    (t.route exchange).1 = none := by
  cases ht : (t.route exchange).1 with
  | none => rfl
  | some other =>
      rcases List.prefix_or_prefix_of_prefix (segments_prefix_of_route hs)
        (segments_prefix_of_route ht) with hbelow | hbelow
      · exact absurd hbelow h.1
      · exact absurd hbelow h.2

theorem eq_or_apart_of_mem (h : services.Pairwise Apart) (hs : s ∈ services) (ht : t ∈ services) :
    t = s ∨ s.Apart t := by
  induction services with
  | nil => exact absurd hs List.not_mem_nil
  | cons first rest ih =>
      obtain ⟨hfirst, hrest⟩ := List.pairwise_cons.1 h
      rcases List.mem_cons.1 hs with rfl | hsRest
      · rcases List.mem_cons.1 ht with rfl | htRest
        · exact .inl rfl
        · exact .inr (hfirst t htRest)
      · rcases List.mem_cons.1 ht with rfl | htRest
        · exact .inr (hfirst s hsRest).symm
        · exact ih hrest hsRest htRest

theorem length_filter_answers_le_one (h : services.Pairwise Apart) (exchange : Exchange σ) :
    (services.filter fun s => (s.route exchange).1.isSome).length ≤ 1 := by
  have hpairwise := h.filter fun s => (s.route exchange).1.isSome
  cases hanswering : services.filter fun s => (s.route exchange).1.isSome with
  | nil => exact Nat.zero_le 1
  | cons first rest =>
      cases rest with
      | nil => exact Nat.le_refl 1
      | cons second rest =>
          have hanswers : ∀ s ∈ first :: second :: rest, (s.route exchange).1.isSome = true := by
            intro s hs
            rw [← hanswering] at hs
            exact (List.mem_filter.1 hs).2
          rw [hanswering] at hpairwise
          have hapart := (List.pairwise_cons.1 hpairwise).1 second List.mem_cons_self
          obtain ⟨response, hfirst⟩ :=
            Option.isSome_iff_exists.1 (hanswers first List.mem_cons_self)
          have hsecond := hanswers second (List.mem_cons_of_mem first List.mem_cons_self)
          rw [hapart.route_eq_none hfirst] at hsecond
          exact absurd hsecond (by simp)

/-- The service that answers is the one that counts in any row of services that are apart. -/
theorem composite_of_answers (h : services.Pairwise Apart) (horder : order.Perm services)
    (hs : s ∈ services) (hanswer : (s.route exchange).1 = some response) :
    Router.composite (order.map route) exchange = s.route exchange := by
  refine Router.composite_of_answers (List.mem_map_of_mem (horder.mem_iff.2 hs)) hanswer ?_
  intro r hr
  obtain ⟨t, ht, rfl⟩ := List.mem_map.1 hr
  rcases eq_or_apart_of_mem h hs (horder.mem_iff.1 ht) with rfl | hapart
  · exact .inl rfl
  · exact .inr (leavesAlone_of_route_eq_none (hapart.route_eq_none hanswer))

theorem composite_of_none (h : ∀ s ∈ services, (s.route exchange).1 = none)
    (horder : order.Perm services) :
    Router.composite (order.map route) exchange = (some Router.notFound, exchange) := by
  refine Router.composite_of_leavesAlone fun r hr => ?_
  obtain ⟨t, ht, rfl⟩ := List.mem_map.1 hr
  exact leavesAlone_of_route_eq_none (h t (horder.mem_iff.1 ht))

theorem composite_perm (h : services.Pairwise Apart) (horder : order.Perm services)
    (exchange : Exchange σ) :
    Router.composite (order.map route) exchange =
      Router.composite (services.map route) exchange := by
  by_cases hnone : ∀ s ∈ services, (s.route exchange).1 = none
  · rw [composite_of_none hnone horder, composite_of_none hnone (List.Perm.refl services)]
  · simp only [not_forall] at hnone
    obtain ⟨s, hs, hanswers⟩ := hnone
    obtain ⟨response, hanswer⟩ := Option.ne_none_iff_exists'.1 hanswers
    rw [composite_of_answers h horder hs hanswer,
      composite_of_answers h (List.Perm.refl services) hs hanswer]

/--
**Services side by side**: services that are apart answer as if each of them stood alone.
-/
theorem composite_isolated (h : services.Pairwise Apart) (exchange : Exchange σ) :
    (services.filter fun s => (s.route exchange).1.isSome).length ≤ 1 ∧
      (∀ s ∈ services, (s.route exchange).1 = none → (s.route exchange).2 = exchange) ∧
      (∀ s ∈ services, ∀ response, (s.route exchange).1 = some response →
        s.segments <+: pathSegments exchange.request.path ∧
          Router.composite (services.map route) exchange = s.route exchange) ∧
      ((∀ s ∈ services, (s.route exchange).1 = none) →
        Router.composite (services.map route) exchange = (some (.empty 404 {}), exchange)) ∧
      ∀ order : List (Service σ), order.Perm services →
        Router.composite (order.map route) exchange =
          Router.composite (services.map route) exchange := by
  refine ⟨length_filter_answers_le_one h exchange, ?_, ?_, ?_, ?_⟩
  · intro s _ hnone
    rw [leavesAlone_of_route_eq_none hnone]
  · intro s hs response hanswer
    exact ⟨segments_prefix_of_route hanswer,
      composite_of_answers h (List.Perm.refl services) hs hanswer⟩
  · intro hnone
    exact composite_of_none hnone (List.Perm.refl services)
  · intro order horder
    exact composite_perm h horder exchange

/-- The definition of an API with one operation, in a version of its own. -/
def listing (version : Nat) : Definition where
  raw := .null
  document :=
    { version, routes := [("items", ⟨[(.get, { target := { action := "list" } })]⟩)] }

/-- Handlers with one action that tells a version. -/
def tellers (version : Nat) : Handlers Unit :=
  Handlers.register {} none [("list", fun _ => .done (.returned (.ofInt version)))]

/-- `GET` of the items of version 10. -/
def askItems : Exchange Unit where
  request :=
    { method := "GET", path := "/api/shop/v10/items", query := .object [], headers := {},
      body := .null }
  store := ()

/-- One version may begin with the text of another one. -/
theorem listing_isolated :
    ∃ s t : Service Unit,
      Service.bind (listing 1) (tellers 1) {} { prefixPath := "shop" } = .ok s ∧
      Service.bind (listing 10) (tellers 10) {} { prefixPath := "//shop/" } = .ok t ∧
      [s, t].Pairwise Apart ∧
      Router.composite ([s, t].map route) askItems = t.route askItems ∧
      Router.composite ([t, s].map route) askItems = t.route askItems := by
  obtain ⟨s, hs⟩ : ∃ s, Service.bind (listing 1) (tellers 1) {} { prefixPath := "shop" } = .ok s :=
    ⟨_, rfl⟩
  obtain ⟨t, ht, response, hanswer⟩ : ∃ t, Service.bind (listing 10) (tellers 10) {}
      { prefixPath := "//shop/" } = .ok t ∧ ∃ response, (t.route askItems).1 = some response :=
    ⟨_, rfl, _, rfl⟩
  have hapart : [s, t].Pairwise Apart := by
    have hst : s.Apart t := by
      rw [Apart, segments_of_bind hs, segments_of_bind ht]
      decide
    exact List.pairwise_pair.2 hst
  obtain ⟨-, -, hanswers, -, horder⟩ := composite_isolated hapart askItems
  have hlast := (hanswers t (by simp) response hanswer).2
  have hswap := horder [t, s] (List.Perm.swap s t [])
  exact ⟨s, t, hs, ht, hapart, hlast, hswap.trans hlast⟩

end Service

end Switchboard
