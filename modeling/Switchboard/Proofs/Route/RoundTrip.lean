import Switchboard.Proofs.Schema.RoundTrip
import Switchboard.Route.Document

/-!
# Documents read back

A document may be written in many ways: verbs in any letter case or left out, records
as arrays of their fields, parts that are absent as `null`.  `Document.toJson` writes
it in one way, and what is read from there is the document itself
(`Document.decode_toJson_of_decode`).

Each part is read back whatever it declares.  Only a route and a version have to be as a
reader makes them: a route that was read has an operation, and none of its verbs twice
(`Route.declared_of_decode`), and a version fits 32 digits.
-/

namespace Switchboard

open Json

namespace Target

/-- Sets one part of a target, and notes whether the action is there. -/
def putPart (t : Target × Bool) : String × Json → Decoded (Target × Bool)
  | ("group", v) => do
    let group ← decodeOptional decodeString v
    return ({ t.1 with group }, t.2)
  | ("action", v) => do
    let action ← decodeString v
    return ({ t.1 with action }, true)
  | ("mapping", v) => do
    let mapping ← decodeOptional (decodeList decodeString) v
    return ({ t.1 with mapping }, t.2)
  | _ => return t

theorem decode_object (members : List (String × Json)) :
    decode (.object members) = (do
      let t ← members.foldlM putPart ({ action := "" }, false)
      if !t.2 then .error (absent .target "action" (.object members))
      return t.1) := rfl

theorem reads_toJson (t : Target) : Reads decode t.toJson t where
  decode_eq := by
    obtain ⟨group, action, mapping⟩ := t
    have hparts := calc
      (parts [("group", group.map Json.string), ("action", some (.string action)),
          ("mapping", mapping.map fun names => .array (names.map Json.string))]).foldlM putPart
          ({ action := "" }, false)
      _ = (parts [("action", some (.string action)),
            ("mapping", mapping.map fun names => .array (names.map Json.string))]).foldlM putPart
            ({ group, action := "" }, false) :=
          foldlM_parts_optional (decodeOptional decodeString)
            (fun group => (mk group "" none, false)) rfl
            (fun name _ => (Reads.string name).optional) (fun _ => rfl) rfl
      _ = (parts [("mapping", mapping.map fun names => .array (names.map Json.string))]).foldlM
            putPart ({ group, action }, true) := foldlM_parts_required rfl
      _ = .ok ({ group, action, mapping }, true) :=
          foldlM_parts_optional (decodeOptional (decodeList decodeString))
            (fun mapping => (mk group action mapping, true)) rfl
            (fun names _ => (Reads.list Json.string fun name _ => Reads.string name).optional)
            (fun _ => rfl) rfl
    rw [toJson, ofOptional_eq, decode_object, hparts]
    rfl
  notNull := rfl

end Target

theorem UrlInputs.reads_toJson (url : UrlInputs) : Reads decode url.toJson url := by
  cases url with
  | flag declared => exact ⟨rfl, rfl⟩
  | schema s =>
      refine ⟨?_, rfl⟩
      have hread := (Schema.reads_toJson s).decode_eq
      rw [Schema.toJson] at hread
      rw [toJson, Schema.toJson, decode, hread]
      exact fun b h => nomatch h

theorem Inputs.reads_toJson (i : Inputs) : Reads decode i.toJson i where
  decode_eq := by
    obtain ⟨query, body, header, url⟩ := i
    have hparts := calc
      (parts [("query", query.map Schema.toJson), ("body", body.map Schema.toJson),
          ("header", header.map Schema.toJson), ("url", url.map UrlInputs.toJson)]).foldlM put {}
      _ = (parts [("body", body.map Schema.toJson), ("header", header.map Schema.toJson),
            ("url", url.map UrlInputs.toJson)]).foldlM put { query } :=
          foldlM_parts_optional (decodeOptional Schema.decode) (mk · none none none) rfl
            (fun s _ => (Schema.reads_toJson s).optional) (fun _ => rfl) rfl
      _ = (parts [("header", header.map Schema.toJson),
            ("url", url.map UrlInputs.toJson)]).foldlM put { query, body } :=
          foldlM_parts_optional (decodeOptional Schema.decode) (mk query · none none) rfl
            (fun s _ => (Schema.reads_toJson s).optional) (fun _ => rfl) rfl
      _ = (parts [("url", url.map UrlInputs.toJson)]).foldlM put { query, body, header } :=
          foldlM_parts_optional (decodeOptional Schema.decode) (mk query body · none) rfl
            (fun s _ => (Schema.reads_toJson s).optional) (fun _ => rfl) rfl
      _ = .ok { query, body, header, url } :=
          foldlM_parts_optional (decodeOptional UrlInputs.decode) (mk query body header ·) rfl
            (fun declared _ => declared.reads_toJson.optional) (fun _ => rfl) rfl
    show ((parts _).foldlM put {} >>= fun inputs => _) = _
    rw [hparts]
    rfl
  notNull := rfl

namespace Reply

/-- Sets the only part of a reply. -/
def putPart (reply : Reply) : String × Json → Decoded Reply
  | ("schema", v) => do
    let schema ← decodeOptional Field.decode v
    return { reply with schema }
  | _ => return reply

theorem decode_object (members : List (String × Json)) :
    decode (.object members) = members.foldlM putPart {} >>= fun reply => return reply := rfl

theorem reads_toJson (r : Reply) : Reads decode r.toJson r where
  decode_eq := by
    obtain ⟨schema⟩ := r
    have hparts : (parts [("schema", schema.map Field.toJson)]).foldlM putPart {} =
        .ok { schema } :=
      foldlM_parts_optional (decodeOptional Field.decode) Reply.mk rfl
        (fun f _ => f.reads_toJson.optional) (fun _ => rfl) rfl
    rw [toJson, ofOptional_eq, decode_object, hparts]
    rfl
  notNull := rfl

end Reply

theorem Operation.reads_toJson (o : Operation) : Reads decode o.toJson o where
  decode_eq := by
    obtain ⟨target, inputs, replies⟩ := o
    have hreplies : Reads (decodeMap Reply.decode)
        (.object (replies.map fun entry => (entry.1, entry.2.toJson))) replies :=
      Reads.map Reply.toJson fun entry _ => entry.2.reads_toJson
    have htarget : Draft.put {} ("handler", target.toJson) = .ok { target := some target } := by
      rw [Draft.put, target.reads_toJson.decode_eq]
      rfl
    have hinputs : Draft.put { target := some target } ("params", inputs.toJson) =
        .ok { target := some target, inputs } := by
      rw [Draft.put, inputs.reads_toJson.decode_eq]
      rfl
    have hresponse : Draft.put { target := some target, inputs } ("response",
        .object (replies.map fun entry => (entry.1, entry.2.toJson))) =
        .ok { target := some target, inputs, replies } := by
      rw [Draft.put, hreplies.decode_eq]
      rfl
    have hparts := calc
      (parts [("handler", some target.toJson), ("params", some inputs.toJson),
          ("response", some _)]).foldlM Draft.put {}
      _ = (parts [("params", some inputs.toJson), ("response", some _)]).foldlM Draft.put
            { target := some target } := foldlM_parts_required htarget
      _ = (parts [("response", some _)]).foldlM Draft.put { target := some target, inputs } :=
          foldlM_parts_required hinputs
      _ = .ok { target := some target, inputs, replies } := foldlM_parts_required hresponse
    have hform : toJson { target, inputs, replies } = .object (parts
        [("handler", some target.toJson), ("params", some inputs.toJson),
          ("response", some (.object (replies.map fun entry =>
            (entry.1, entry.2.toJson))))]) := rfl
    rw [hform]
    show ((parts _).foldlM Draft.put {} >>= fun draft => _) = _
    rw [hparts]
    rfl
  notNull := rfl

/-! ## Routes -/

theorem Verb.ofKey?_name (v : Verb) : Verb.ofKey? v.name = some v := by
  cases v <;> decide

namespace Route

/-- The route has an operation, and none of its verbs stands twice. -/
structure Declared (r : Route) : Prop where
  nonempty : r.operations ≠ []
  distinct : (r.operations.map Prod.fst).Nodup

/-- The operations as members of an object, each under the name of its verb. -/
def members (operations : List (Verb × Operation)) : List (String × Json) :=
  operations.map fun (verb, operation) => (verb.name, operation.toJson)

theorem set_of_notMem {done : List (Verb × Operation)} {verb : Verb}
    (h : verb ∉ done.map Prod.fst) (operation : Operation) :
    set done verb operation = done ++ [(verb, operation)] := by
  induction done with
  | nil => rfl
  | cons entry rest ih =>
      rw [List.map_cons, List.mem_cons, not_or] at h
      rw [set, if_neg (Ne.symm h.1), ih h.2]
      rfl

theorem map_fst_set (done : List (Verb × Operation)) (verb : Verb) (operation : Operation) :
    (set done verb operation).map Prod.fst =
      if verb ∈ done.map Prod.fst then done.map Prod.fst else done.map Prod.fst ++ [verb] := by
  induction done with
  | nil => rfl
  | cons entry rest ih =>
      by_cases hverb : entry.1 = verb
      · simp [set, hverb]
      · simp only [List.map_cons, List.mem_cons, Ne.symm hverb, false_or, set, if_neg hverb, ih]
        split <;> rfl

theorem nodup_set {done : List (Verb × Operation)} (h : (done.map Prod.fst).Nodup) (verb : Verb)
    (operation : Operation) : ((set done verb operation).map Prod.fst).Nodup := by
  rw [map_fst_set]
  split
  · exact h
  · rename_i hverb
    rw [List.nodup_append]
    refine ⟨h, by simp, ?_⟩
    intro v hv w hw heq
    obtain rfl : w = verb := List.mem_singleton.1 hw
    exact hverb (heq ▸ hv)

theorem set_ne_nil (done : List (Verb × Operation)) (verb : Verb) (operation : Operation) :
    set done verb operation ≠ [] := by
  cases done with
  | nil => exact List.cons_ne_nil _ _
  | cons entry rest =>
      rw [set]
      split
      · exact List.cons_ne_nil _ _
      · exact List.cons_ne_nil _ _

/-- Reading verbs goes on from a route to a route. -/
theorem declared_of_decodeVerbs {done operations : List (Verb × Operation)}
    {members : List (String × Json)} (h : decodeVerbs done members = .ok operations)
    (hdistinct : (done.map Prod.fst).Nodup) (hmembers : done ≠ [] ∨ members ≠ []) :
    Declared ⟨operations⟩ := by
  induction members generalizing done with
  | nil =>
      obtain rfl := Except.ok.inj h
      exact ⟨hmembers.resolve_right (fun hne => hne rfl), hdistinct⟩
  | cons member rest ih =>
      rw [decodeVerbs] at h
      split at h
      · simp at h
      · rename_i verb hverb
        split at h
        · simp at h
        · exact ih h (nodup_set hdistinct _ _) (.inl (set_ne_nil _ _ _))

theorem declared_of_decode {value : Json} {r : Route} (h : decode value = .ok r) : r.Declared := by
  cases value with
  | object members =>
      rw [decode] at h
      split at h
      · rename_i hany
        obtain ⟨operations, hoperations, rfl⟩ := exists_of_map_eq_ok h
        refine declared_of_decodeVerbs hoperations List.nodup_nil (.inr ?_)
        intro hnil
        rw [hnil] at hany
        exact absurd hany (by decide)
      · obtain ⟨operation, hoperation, rfl⟩ := exists_of_map_eq_ok h
        exact ⟨List.cons_ne_nil _ _, by simp⟩
  | null | bool | number | string | array => simp [decode] at h

theorem decodeVerbs_members {done operations : List (Verb × Operation)}
    (h : ((done ++ operations).map Prod.fst).Nodup) :
    decodeVerbs done (members operations) = .ok (done ++ operations) := by
  induction operations generalizing done with
  | nil => rw [List.append_nil]; rfl
  | cons entry rest ih =>
      obtain ⟨verb, operation⟩ := entry
      have hnew : verb ∉ done.map Prod.fst := by
        rw [List.map_append, List.nodup_append] at h
        exact fun hmem => h.2.2 verb hmem verb List.mem_cons_self rfl
      -- a new verb goes to the end of those read already, where it stood when it was written
      have hassoc : done ++ (verb, operation) :: rest = (done ++ [(verb, operation)]) ++ rest := by
        simp
      show decodeVerbs done ((verb.name, operation.toJson) :: members rest) = _
      rw [decodeVerbs, Verb.ofKey?_name]
      dsimp only
      rw [operation.reads_toJson.decode_eq]
      dsimp only
      rw [set_of_notMem hnew, hassoc]
      exact ih (hassoc ▸ h)

theorem Declared.reads {r : Route} (h : r.Declared) :
    Reads decode (.object (members r.operations)) r where
  decode_eq := by
    obtain ⟨operations⟩ := r
    -- the names that are written are those of verbs, so none of them is taken for a part of `get`
    have hany : (members operations).any (fun member => (Verb.ofKey? member.1).isSome) = true := by
      obtain ⟨⟨verb, operation⟩, rest, rfl⟩ := List.exists_cons_of_ne_nil h.nonempty
      show ((Verb.ofKey? verb.name).isSome || _) = true
      rw [Verb.ofKey?_name]
      rfl
    rw [decode]
    split
    · rw [decodeVerbs_members (by simpa using h.distinct)]
      rfl
    · rename_i hnone
      exact absurd hany hnone
  notNull := rfl

end Route

/-! ## Documents -/

namespace Document

/-- The version fits, and the routes are as a reader makes them. -/
structure Draft.Declared (draft : Draft) : Prop where
  version : ∀ n, draft.version = some n → n < Nat.pow 2 32
  routes : ∀ entry ∈ draft.routes, entry.2.Declared

theorem Draft.declared_of_put {draft next : Draft} {member : String × Json}
    (hdraft : draft.Declared) (h : draft.put member = .ok next) : next.Declared := by
  unfold Draft.put at h
  split at h
  · obtain ⟨version, hversion, h⟩ := exists_of_bind_eq_ok h
    obtain rfl := Except.ok.inj h
    refine ⟨fun n hn => ?_, hdraft.routes⟩
    obtain rfl := Option.some.inj hn
    exact lt_of_decodeUnsigned hversion
  · obtain ⟨routes, hroutes, h⟩ := exists_of_bind_eq_ok h
    obtain rfl := Except.ok.inj h
    refine ⟨hdraft.version, fun entry hentry => ?_⟩
    obtain ⟨json, hjson⟩ := exists_of_decodeMap hroutes hentry
    exact Route.declared_of_decode hjson
  · obtain rfl := Except.ok.inj h
    exact hdraft

/-- What a reader makes of any value is a document that can be read back. -/
theorem declared_of_decode {value : Json} {d : Document} (h : decode value = .ok d) :
    d.version < Nat.pow 2 32 ∧ ∀ entry ∈ d.routes, entry.2.Declared := by
  obtain ⟨members, -, h⟩ := exists_of_bind_eq_ok h
  obtain ⟨draft, hdraft, h⟩ := exists_of_bind_eq_ok h
  have hdeclared : draft.Declared :=
    foldlM_invariant Draft.Declared (fun _ _ _ _ => Draft.declared_of_put)
      ⟨by simp, by simp⟩ hdraft
  split at h
  · simp at h
  · rename_i version hversion
    obtain ⟨-, -, h⟩ := exists_of_bind_eq_ok h
    obtain rfl := Except.ok.inj h
    exact ⟨hdeclared.version version hversion, hdeclared.routes⟩

/--
**Documents read back**: whatever way a document was written in, the one way in which it is written
out declares the same.
-/
theorem decode_toJson_of_decode {value : Json} {d : Document} (h : decode value = .ok d) :
    decode d.toJson = .ok d := by
  obtain ⟨version, routes⟩ := d
  obtain ⟨hversion, hdeclared⟩ := declared_of_decode h
  have hroutes : Reads (decodeMap Route.decode)
      (.object (routes.map fun entry => (entry.1, .object (Route.members entry.2.operations))))
      routes :=
    Reads.map (fun route => .object (Route.members route.operations)) fun entry hentry =>
      (hdeclared entry hentry).reads
  have hputVersion : Draft.put {} ("version", .ofInt version) =
      .ok { version := some version } := by
    rw [Draft.put, decodeUnsigned_ofInt hversion]
    rfl
  have hputRoutes : Draft.put { version := some version } ("routes",
      .object (routes.map fun entry => (entry.1, .object (Route.members entry.2.operations)))) =
      .ok { version := some version, routes } := by
    rw [Draft.put, hroutes.decode_eq]
    rfl
  have hparts := calc
    (parts [("version", some (.ofInt version)), ("routes", some _)]).foldlM Draft.put {}
    _ = (parts [("routes", some _)]).foldlM Draft.put { version := some version } :=
        foldlM_parts_required hputVersion
    _ = .ok { version := some version, routes } := foldlM_parts_required hputRoutes
  have hform : toJson { version, routes } = .object (parts [("version", some (.ofInt version)),
    ("routes", some (.object (routes.map fun entry =>
      (entry.1, .object (Route.members entry.2.operations)))))]) := rfl
  rw [hform]
  show ((parts _).foldlM Draft.put {} >>= fun draft => _) = _
  rw [hparts]
  rfl

/-- Three operations: one without a verb, one as an array of its parts and one under the second name
of its verb.  A default is `null`, and an item has fields. -/
def manySpellings : Json :=
  .object
    [("routes", .object
      [("users/:id", .object
        [("handler", .object [("action", .string "show"), ("group", .null)]),
          ("params", .object [("url", .bool true)])]),
        ("users", .object
          [("Post", .array
            [.array [.string "users", .string "create", .array [.string "name"]],
              .array [.null, .object [("name", .object [("default", .null)])]],
              .object [("201", .array [.object [("item", .object [("fields", .object
                [("id", .object [("type", .string "int")])])])]])]]),
            ("PATCH", .object
              [("handler", .object [("action", .string "rename")]),
                ("params", .object [("url", .object [("id", .object [])])])])])]),
      ("version", .ofInt 3)]

theorem decode_toJson_manySpellings :
    ∃ d, decode manySpellings = .ok d ∧
      d.operations.map (fun placed => (placed.path, placed.verb)) =
        [("users/:id", .get), ("users", .post), ("users", .update)] ∧
      decode d.toJson = .ok d := by
  obtain ⟨d, hd, hoperations⟩ : ∃ d, decode manySpellings = .ok d ∧
      d.operations.map (fun placed => (placed.path, placed.verb)) =
        [("users/:id", .get), ("users", .post), ("users", .update)] := ⟨_, rfl, by decide⟩
  exact ⟨d, hd, hoperations, decode_toJson_of_decode hd⟩

end Document

end Switchboard
