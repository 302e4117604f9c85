import Switchboard.Proofs.Route.Coverage
import Switchboard.Proofs.Server.Binding
import Switchboard.Proofs.Server.Mount

/-!
# Which operation answers a request

A service takes the first operation that has the method of a request and fits its
path.  Whether an operation is ever taken can be told from the document alone: no
earlier operation of the same method may cover it, and it must not stand where the
document itself is shown (`exists_chosen?_iff`).

An operation is known by its place in the document.  Two operations may be alike in
everything but the slashes in their paths, and then only the first of them is ever
taken.
-/

namespace Switchboard

variable {σ : Type}

/-- The operation has the method, and its path fits. -/
def Placed.Accepts (placed : Placed) (method relative : String) : Prop :=
  placed.verb.method = method ∧ ((Template.ofPath placed.path).capture? relative).isSome = true

namespace Endpoint

/-- The operation has the method, and its template fits. -/
def accepts (e : Endpoint σ) (method relative : String) : Bool :=
  e.method == method && (e.template.capture? relative).isSome

theorem accepts_iff {e : Endpoint σ} {method relative : String} :
    e.accepts method relative = true ↔
      e.method = method ∧ (e.template.capture? relative).isSome = true := by
  simp [accepts]

end Endpoint

namespace Service

variable {s : Service σ} {method path relative : String} {i : Nat}

/-! ## The place of the document -/

/-- The document is shown for the method at the path. -/
def ShowsDocument (method relative : String) : Prop :=
  (method = "GET" ∨ method = "HEAD") ∧ isDocumentPath relative = true

instance (method relative : String) : Decidable (ShowsDocument method relative) := by
  unfold ShowsDocument
  infer_instance

/-- The document is shown where the only segment is its name, with any slashes around it. -/
theorem isDocumentPath_iff :
    isDocumentPath relative = true ↔ pathSegments relative = [documentName.toList] := by
  have htrim : isDocumentPath relative = true ↔
      Text.trimEnds '/' relative.toList = documentName.toList := beq_iff_eq
  rw [htrim, Text.trimEnds_eq_iff (by decide) (by decide), pathSegments]

/-! ## Routing -/

/-- What an operation makes of a request. -/
def serve (s : Service σ) (e : Endpoint σ) (captured : Entries Json) (exchange : Exchange σ) :
    Option Response × Exchange σ :=
  (some (finish exchange.request.method (e.dispatch s.registry captured exchange).1),
    (e.dispatch s.registry captured exchange).2)

theorem route_eq (s : Service σ) (exchange : Exchange σ) :
    s.route exchange =
      match Mount.relative? s.basePath exchange.request.path with
      | none => (none, exchange)
      | some relative =>
        if ShowsDocument exchange.request.method relative then
          (some (finish exchange.request.method (.json 200 s.definition.raw {})), exchange)
        else
          match s.select? exchange.request.method relative with
          | none => (none, exchange)
          | some (e, captured) => s.serve e captured exchange := rfl

/-! ## The operation that is taken -/

/-- The place of the first operation of the method that fits. -/
def place? (s : Service σ) (method relative : String) : Option Nat :=
  s.endpoints.findIdx? (·.accepts method relative)

/-- The place in the document of the operation that a request goes to; a request for the document
goes to none. -/
def chosen? (s : Service σ) (method path : String) : Option Nat :=
  match Mount.relative? s.basePath path with
  | none => none
  | some relative =>
    if ShowsDocument method relative then none
    else (s.place? method relative).or (if method = "HEAD" then s.place? "GET" relative else none)

theorem place?_eq_some_iff :
    s.place? method relative = some i ↔
      (∃ e, s.endpoints[i]? = some e ∧ e.accepts method relative = true) ∧
        ∀ j e, j < i → s.endpoints[j]? = some e → e.accepts method relative = false := by
  rw [place?, List.findIdx?_eq_some_iff_getElem]
  constructor
  · rintro ⟨hi, haccepts, hbefore⟩
    refine ⟨⟨_, List.getElem?_eq_getElem hi, haccepts⟩, ?_⟩
    intro j e hj he
    obtain ⟨hlt, rfl⟩ := List.getElem?_eq_some_iff.1 he
    simpa using hbefore j hj
  · rintro ⟨⟨e, he, haccepts⟩, hbefore⟩
    obtain ⟨hi, rfl⟩ := List.getElem?_eq_some_iff.1 he
    refine ⟨hi, haccepts, ?_⟩
    intro j hj
    simpa using hbefore j _ hj (List.getElem?_eq_getElem (Nat.lt_trans hj hi))

theorem find?_eq_none_of_place? (h : s.place? method relative = none) :
    s.find? method relative = none := by
  rw [place?, List.findIdx?_eq_none_iff] at h
  rw [find?, List.findSome?_eq_none_iff]
  intro e he
  have hrefused := h e he
  by_cases hmethod : e.method = method
  · rw [if_pos hmethod, Option.map_eq_none_iff]
    simpa [Endpoint.accepts, hmethod] using hrefused
  · exact if_neg hmethod

/-- What is found is the operation at that place. -/
theorem find?_of_place? (h : s.place? method relative = some i) :
    ∃ e captured, s.endpoints[i]? = some e ∧ e.template.capture? relative = some captured ∧
      s.find? method relative = some (e, captured) := by
  obtain ⟨⟨e, he, haccepts⟩, hbefore⟩ := place?_eq_some_iff.1 h
  obtain ⟨hmethod, hfits⟩ := Endpoint.accepts_iff.1 haccepts
  obtain ⟨captured, hcaptured⟩ := Option.isSome_iff_exists.1 hfits
  refine ⟨e, captured, he, hcaptured, ?_⟩
  obtain ⟨hi, rfl⟩ := List.getElem?_eq_some_iff.1 he
  rw [find?, List.findSome?_eq_some_iff]
  refine ⟨s.endpoints.take i, s.endpoints[i], s.endpoints.drop (i + 1), ?_, ?_, ?_⟩
  · rw [List.getElem_cons_drop, List.take_append_drop]
  · rw [if_pos hmethod, hcaptured]
    rfl
  · intro other hother
    obtain ⟨j, hj⟩ := List.getElem?_of_mem hother
    rw [List.getElem?_take] at hj
    split at hj
    · rename_i hlt
      have hrefused := hbefore j other hlt hj
      by_cases hsame : other.method = method
      · rw [if_pos hsame, Option.map_eq_none_iff]
        simpa [Endpoint.accepts, hsame] using hrefused
      · exact if_neg hsame
    · simp at hj

theorem select?_of_place? (h : (s.place? method relative).or
      (if method = "HEAD" then s.place? "GET" relative else none) = some i) :
    ∃ e captured, s.endpoints[i]? = some e ∧ e.template.capture? relative = some captured ∧
      s.select? method relative = some (e, captured) := by
  unfold select?
  cases hplace : s.place? method relative with
  | some own =>
      rw [hplace, Option.some_or] at h
      obtain rfl := Option.some.inj h
      obtain ⟨e, captured, he, hcaptured, hfind⟩ := find?_of_place? hplace
      exact ⟨e, captured, he, hcaptured, by rw [hfind]⟩
  | none =>
      rw [hplace, Option.none_or] at h
      rw [find?_eq_none_of_place? hplace]
      split at h
      · rename_i hhead
        obtain ⟨e, captured, he, hcaptured, hfind⟩ := find?_of_place? h
        exact ⟨e, captured, he, hcaptured, by rw [if_pos hhead, hfind]⟩
      · simp at h

theorem select?_eq_none_of_place? (h : (s.place? method relative).or
      (if method = "HEAD" then s.place? "GET" relative else none) = none) :
    s.select? method relative = none := by
  rw [Option.or_eq_none_iff] at h
  obtain ⟨hown, hfallback⟩ := h
  unfold select?
  rw [find?_eq_none_of_place? hown]
  dsimp only
  by_cases hhead : method = "HEAD"
  · rw [if_pos hhead] at hfallback ⊢
    exact find?_eq_none_of_place? hfallback
  · exact if_neg hhead

theorem chosen?_eq_some_iff :
    s.chosen? method path = some i ↔
      ∃ relative, Mount.relative? s.basePath path = some relative ∧
        ¬ ShowsDocument method relative ∧
        (s.place? method relative).or
          (if method = "HEAD" then s.place? "GET" relative else none) = some i := by
  unfold chosen?
  cases Mount.relative? s.basePath path with
  | none => simp
  | some relative =>
      by_cases hshows : ShowsDocument method relative
      · simp [hshows]
      · simp [hshows]

/-- A request is served by the operation that it goes to. -/
theorem route_of_chosen? {exchange : Exchange σ}
    (h : s.chosen? exchange.request.method exchange.request.path = some i) :
    ∃ e captured, s.endpoints[i]? = some e ∧ s.route exchange = s.serve e captured exchange := by
  obtain ⟨relative, hrelative, hshows, hplace⟩ := chosen?_eq_some_iff.1 h
  obtain ⟨e, captured, he, -, hselect⟩ := select?_of_place? hplace
  refine ⟨e, captured, he, ?_⟩
  rw [route_eq, hrelative]
  dsimp only
  rw [if_neg hshows, hselect]

/-- A request that goes to no operation is left alone or shown the document. -/
theorem route_of_chosen?_eq_none {exchange : Exchange σ}
    (h : s.chosen? exchange.request.method exchange.request.path = none) :
    (s.route exchange).2 = exchange ∧
      ((s.route exchange).1 = none ∨
        (s.route exchange).1 =
          some (finish exchange.request.method (.json 200 s.definition.raw {}))) := by
  rw [route_eq]
  unfold chosen? at h
  cases hrelative : Mount.relative? s.basePath exchange.request.path with
  | none => exact ⟨rfl, .inl rfl⟩
  | some relative =>
      rw [hrelative] at h
      dsimp only at h ⊢
      by_cases hshows : ShowsDocument exchange.request.method relative
      · rw [if_pos hshows]
        exact ⟨rfl, .inr rfl⟩
      · rw [if_neg hshows] at h ⊢
        rw [select?_eq_none_of_place? h]
        exact ⟨rfl, .inl rfl⟩

/-! ## Operations of the document -/

variable {handlers : Handlers σ} {definition : Definition} {registry : Registry} {mount : Mount}
  {placed : Placed}

/-- The place is found in the document as in the service that was made of it. -/
theorem place?_eq_some_iff_of_bind (h : Service.bind definition handlers registry mount = .ok s) :
    s.place? method relative = some i ↔
      (∃ placed, definition.document.operations[i]? = some placed ∧
        placed.Accepts method relative) ∧
        ∀ j earlier, j < i → definition.document.operations[j]? = some earlier →
          ¬ earlier.Accepts method relative := by
  obtain ⟨-, -, -, hendpoints, hbound⟩ := Service.bind_ok h
  have haccepts : ∀ e ∈ s.endpoints,
      (e.accepts method relative = true ↔ e.placed.Accepts method relative) := by
    intro e he
    obtain ⟨-, htemplate, -⟩ := Endpoint.bind_ok (hbound e he)
    rw [Endpoint.accepts_iff, htemplate]
    rfl
  rw [place?_eq_some_iff, ← hendpoints]
  constructor
  · rintro ⟨⟨e, he, htaken⟩, hbefore⟩
    refine ⟨⟨e.placed, by rw [List.getElem?_map, he]; rfl,
      (haccepts e (List.mem_of_getElem? he)).1 htaken⟩, ?_⟩
    intro j earlier hj hearlier
    rw [List.getElem?_map, Option.map_eq_some_iff] at hearlier
    obtain ⟨first, hfirst, rfl⟩ := hearlier
    rw [← haccepts first (List.mem_of_getElem? hfirst), Bool.not_eq_true]
    exact hbefore j first hj hfirst
  · rintro ⟨⟨placed, hplaced, htaken⟩, hbefore⟩
    rw [List.getElem?_map, Option.map_eq_some_iff] at hplaced
    obtain ⟨e, he, rfl⟩ := hplaced
    refine ⟨⟨e, he, (haccepts e (List.mem_of_getElem? he)).2 htaken⟩, ?_⟩
    intro j first hj hfirst
    have hrefused := hbefore j first.placed hj (by rw [List.getElem?_map, hfirst]; rfl)
    rwa [← haccepts first (List.mem_of_getElem? hfirst), Bool.not_eq_true] at hrefused

/-- A request that goes to an operation of its own method has not fallen back to `GET`. -/
theorem place?_of_chosen? (h : Service.bind definition handlers registry mount = .ok s)
    (hplaced : definition.document.operations[i]? = some placed)
    (hchosen : s.chosen? placed.verb.method path = some i) :
    ∃ relative, ¬ ShowsDocument placed.verb.method relative ∧
      s.place? placed.verb.method relative = some i := by
  obtain ⟨relative, -, hshows, hplace⟩ := chosen?_eq_some_iff.1 hchosen
  refine ⟨relative, hshows, ?_⟩
  cases hown : s.place? placed.verb.method relative with
  | some own => rwa [hown, Option.some_or] at hplace
  | none =>
      rw [hown, Option.none_or] at hplace
      split at hplace
      · rename_i hhead
        obtain ⟨⟨other, hother, hget, -⟩, -⟩ := (place?_eq_some_iff_of_bind h).1 hplace
        rw [hplaced] at hother
        obtain rfl := Option.some.inj hother
        rw [hhead] at hget
        exact absurd hget (by decide)
      · simp at hplace

/-! ## Dead operations -/

/-- A path that fits the name of the document alone is that of the document. -/
theorem isDocumentPath_of_capture? {t : Template} (ht : t.segments = [.literal documentName])
    (h : (t.capture? relative).isSome = true) : isDocumentPath relative = true := by
  rw [Template.isSome_capture?_iff, ht] at h
  obtain ⟨hlen, hfit⟩ := h
  have hname := hfit 0 documentName rfl
  rw [isDocumentPath_iff]
  cases hparts : pathSegments relative with
  | nil =>
      rw [hparts] at hname
      simp at hname
  | cons part parts =>
      rw [hparts] at hlen hname
      obtain rfl : parts = [] := List.length_eq_zero_iff.1 (by simpa using hlen.symm)
      obtain rfl : part = documentName.toList := by simpa using hname
      rfl

theorem segments_of_isDocumentPath_fill {filler : String} (hne : filler ≠ "")
    (hslash : '/' ∉ filler.toList) (hname : filler ≠ documentName)
    (h : isDocumentPath ((Template.ofPath path).fill filler) = true) :
    (Template.ofPath path).segments = [.literal documentName] := by
  rw [isDocumentPath_iff, Template.pathSegments_fill hne hslash] at h
  obtain ⟨segment, hsegments, htext⟩ := List.map_eq_singleton_iff.1 h
  rw [hsegments]
  cases segment with
  | literal text =>
      rw [Segment.fill, String.toList_inj] at htext
      rw [htext]
  | parameter name =>
      rw [Segment.fill, String.toList_inj] at htext
      exact absurd htext hname

/-- An operation that nothing stands before is reached by its path with a text for the parameters
that is no literal of the document. -/
theorem exists_chosen?_of_not_covered
    (h : Service.bind definition handlers registry mount = .ok s)
    (hplaced : definition.document.operations[i]? = some placed)
    (hcovers : ∀ j earlier, j < i → definition.document.operations[j]? = some earlier →
      earlier.verb.method = placed.verb.method →
        ¬ (Template.ofPath earlier.path).Covers (.ofPath placed.path))
    (hdocument : ¬ ((placed.verb.method = "GET" ∨ placed.verb.method = "HEAD") ∧
      (Template.ofPath placed.path).segments = [.literal documentName])) :
    ∃ path, s.chosen? placed.verb.method path = some i := by
  obtain ⟨filler, hne, hslash, hfiller⟩ := Segment.exists_filler (.literal documentName ::
    definition.document.operations.flatMap fun other => (Template.ofPath other.path).segments)
  simp only [List.mem_cons, not_or, Segment.literal.injEq, List.mem_flatMap, not_exists,
    not_and] at hfiller
  obtain ⟨hname, hliteral⟩ := hfiller
  have hrelative : Mount.relative? s.basePath
      (s.basePath ++ (Template.ofPath placed.path).fill filler) =
        some ((Template.ofPath placed.path).fill filler) := by
    rw [Mount.relative?_eq_some_iff, String.toList_append, Template.fill, String.toList_ofList]
    exact ⟨rfl, Text.flatMap_starts '/' _⟩
  have hplace : s.place? placed.verb.method ((Template.ofPath placed.path).fill filler) =
      some i := by
    refine (place?_eq_some_iff_of_bind h).2
      ⟨⟨placed, hplaced, rfl, Template.isSome_capture?_fill hne hslash⟩, ?_⟩
    rintro j earlier hj hearlier ⟨hmethod, hfits⟩
    have hnone := hliteral earlier (List.mem_of_getElem? hearlier)
    exact hcovers j earlier hj hearlier hmethod
      ((Template.covers_iff_isSome_capture?_fill hne hslash hnone).2 hfits)
  refine ⟨_, chosen?_eq_some_iff.2 ⟨_, hrelative, ?_, by rw [hplace, Option.some_or]⟩⟩
  rintro ⟨hmethod, hshows⟩
  exact hdocument ⟨hmethod, segments_of_isDocumentPath_fill hne hslash hname hshows⟩

/--
**Dead operations**: some path under the base path goes to an operation exactly when no earlier
operation of the same method covers it and it does not stand where the document is shown.  What goes
to an operation is served by it, and what goes to none is served by none.
-/
theorem exists_chosen?_iff (h : Service.bind definition handlers registry mount = .ok s)
    (hplaced : definition.document.operations[i]? = some placed) :
    ((∃ path, s.chosen? placed.verb.method path = some i) ↔
      (∀ j earlier, j < i → definition.document.operations[j]? = some earlier →
        earlier.verb.method = placed.verb.method →
          ¬ (Template.ofPath earlier.path).Covers (.ofPath placed.path)) ∧
      ¬ ((placed.verb.method = "GET" ∨ placed.verb.method = "HEAD") ∧
        (Template.ofPath placed.path).segments = [.literal "api.json"])) ∧
    ∀ exchange : Exchange σ,
      match s.chosen? exchange.request.method exchange.request.path with
      | some j => ∃ e captured, s.endpoints[j]? = some e ∧
          definition.document.operations[j]? = some e.placed ∧
          s.route exchange = s.serve e captured exchange
      | none => (s.route exchange).2 = exchange ∧
          ((s.route exchange).1 = none ∨ (s.route exchange).1 =
            some (finish exchange.request.method (.json 200 s.definition.raw {}))) := by
  refine ⟨⟨?_, fun ⟨hcovers, hdocument⟩ => ?_⟩, ?_⟩
  · rintro ⟨path, hchosen⟩
    obtain ⟨relative, hshows, hplace⟩ := place?_of_chosen? h hplaced hchosen
    obtain ⟨⟨other, hother, -, hfits⟩, hbefore⟩ := (place?_eq_some_iff_of_bind h).1 hplace
    rw [hplaced] at hother
    obtain rfl := Option.some.inj hother
    constructor
    · intro j earlier hj hearlier hmethod hcovers
      exact hbefore j earlier hj hearlier ⟨hmethod, hcovers.isSome_capture? hfits⟩
    · rintro ⟨hmethod, hsegments⟩
      exact hshows ⟨hmethod, isDocumentPath_of_capture? hsegments hfits⟩
  · exact exists_chosen?_of_not_covered h hplaced hcovers hdocument
  · intro exchange
    split
    · rename_i j hchosen
      obtain ⟨e, captured, he, hroute⟩ := route_of_chosen? hchosen
      obtain ⟨-, -, -, hendpoints, -⟩ := Service.bind_ok h
      exact ⟨e, captured, he, by rw [← hendpoints, List.getElem?_map, he]; rfl, hroute⟩
    · rename_i hchosen
      exact route_of_chosen?_eq_none hchosen

/-- `GET` of a path. -/
def showAt (path : String) : Placed where
  path := path
  verb := .get
  operation := { target := { action := "show" } }

/-- The operations of four paths.  The third is covered by the first, and the fourth stands where
the document is shown. -/
def crowded : Definition where
  raw := .null
  document :=
    { version := 1
      routes := ["users/:id", ":section/active", "users/active", "/api.json/"].map fun path =>
        (path, ⟨[(.get, (showAt path).operation)]⟩) }

/-- Handlers with one action that does nothing. -/
def idle : Handlers Unit :=
  Handlers.register {} none [("show", fun _ => .done (.returned .null))]

theorem crowded_chosen :
    ∃ s, Service.bind crowded idle {} { prefixPath := "crowded" } = .ok s ∧
      (∃ path, s.chosen? "GET" path = some 1) ∧ (¬ ∃ path, s.chosen? "GET" path = some 2) ∧
      ¬ ∃ path, s.chosen? "GET" path = some 3 := by
  obtain ⟨s, hs⟩ : ∃ s, Service.bind crowded idle {} { prefixPath := "crowded" } = .ok s :=
    ⟨_, rfl⟩
  have hfirst : crowded.document.operations[0]? = some (showAt "users/:id") := rfl
  have hsecond : crowded.document.operations[1]? = some (showAt ":section/active") := rfl
  have hthird : crowded.document.operations[2]? = some (showAt "users/active") := rfl
  have hfourth : crowded.document.operations[3]? = some (showAt "/api.json/") := rfl
  have hsegments : (Template.ofPath "users/:id").segments = [.literal "users", .parameter "id"] := by
    decide
  refine ⟨s, hs, ?_, ?_, ?_⟩
  · refine (exists_chosen?_iff hs hsecond).1.2 ⟨?_, by decide⟩
    intro j earlier hj hearlier hmethod hcovers
    obtain rfl : j = 0 := by omega
    rw [hfirst] at hearlier
    obtain rfl := Option.some.inj hearlier
    exact absurd (hcovers.2 0 "users" (by decide)) (by decide)
  · intro hreached
    have hcovers := ((exists_chosen?_iff hs hthird).1.1 hreached).1 0 _ (by decide) hfirst rfl
    refine hcovers ⟨by decide, ?_⟩
    intro j text hj
    rw [showAt, hsegments] at hj
    match j with
    | 0 =>
        obtain rfl : "users" = text := by simpa using hj
        decide
    | 1 => simp at hj
    | j + 2 => simp at hj
  · intro hreached
    exact ((exists_chosen?_iff hs hfourth).1.1 hreached).2 ⟨.inl rfl, by decide⟩

end Service

end Switchboard
