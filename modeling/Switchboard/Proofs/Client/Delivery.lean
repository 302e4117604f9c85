import Switchboard.Client.Basic
import Switchboard.Proofs.Client.Arguments
import Switchboard.Proofs.Handler.Gather
import Switchboard.Proofs.Json.ReadBack
import Switchboard.Proofs.Server.Normalization
import Switchboard.Proofs.Url.Target

/-!
# Requests are delivered

A request crosses to a server as text.  The path and the query of a URL that can be requested arrive
as they were prepared, and the body does exactly if its text is read back and is not too long
(`Prepared.toRequest_toWire_iff`).

So what a handler gets can be told from the request that was prepared: the operation that is chosen
for the path runs on the parameters that its template captures there, on the query of the URL and on
the body as a value (`Action.direct_of_chosen?`).  On the way back it is the same: a call gives the
value of an answer that is read back from its text (`Client.call_of_answer`).
-/

namespace Switchboard

theorem Wire.isReadable_natText (n : Nat) : isReadable (String.ofList (natText n)) = true := by
  rw [isReadable, String.toList_ofList, List.all_eq_true]
  intro c hc
  have hrange := toNat_range_of_isDigit (isDigit_of_mem_natText hc)
  have hlow : 32 ≤ c.toNat := by omega
  have hascii : c.toNat < 128 := by omega
  have hdelete : c.toNat ≠ 127 := by omega
  simp [isReadableChar, isHeaderChar, hlow, hascii, hdelete]

namespace Prepared

/-- The headers that a body comes with. -/
def headers (p : Prepared) : Headers :=
  match p.body with
  | some body =>
    ⟨[(Response.contentType, Response.jsonType),
      (Wire.contentLength, String.ofList (natText body.text.utf8ByteSize))]⟩
  | none => {}

/-- The request as a router sees it if nothing is lost. -/
def received (p : Prepared) : Request :=
  { method := p.method
    path := String.ofList (Wire.normalize p.url.path.text)
    query := p.url.queryValue
    headers := p.headers
    body := p.body.getD .null }

/-- The body, if there is one, is read back from its text, and the text is not too long. -/
def Arrives (p : Prepared) : Prop :=
  ∀ body, p.body = some body →
    Json.read body.text = .ok body ∧ body.text.utf8ByteSize ≤ Wire.maxLength

variable {p : Prepared}

theorem allHeaders_toWire (p : Prepared) : Wire.allHeaders p.toWire = p.headers := by
  unfold Wire.allHeaders toWire headers
  cases p.body with
  | none => rfl
  | some body =>
      have hform : Text.lowerCase Response.contentType = Response.contentType := by decide
      have hlength : Text.lowerCase Wire.contentLength = Wire.contentLength := by decide
      simp only [Headers.ofList, Headers.replace, Headers.erase, Headers.insert, List.map_cons,
        List.map_nil, hform, hlength, Option.map_some]
      rfl

theorem filter_isReadable_headers (p : Prepared) :
    p.headers.entries.filter (Wire.isReadable ·.2) = p.headers.entries := by
  unfold headers
  cases p.body with
  | none => rfl
  | some body =>
      have hform : Wire.isReadable Response.jsonType = true := by decide
      simp [hform, Wire.isReadable_natText]

theorem announcesJson_headers {body : Json} (h : p.body = some body) :
    Wire.announcesJson p.headers = true := by
  have hform : p.headers.get? Response.contentType = some Response.jsonType := by
    rw [headers, h]
    rfl
  rw [Wire.announcesJson, hform]
  decide

/-- The body as a server reads it. -/
def readBody (p : Prepared) : Json := Wire.readBody p.headers ((p.body.map Json.text).getD "")

/-- All but the body arrives as it was prepared. -/
theorem toRequest_toWire (hurl : p.url.Requestable) :
    Wire.toRequest p.toWire = { p.received with body := p.readBody } := by
  obtain ⟨ss, hpath, hne⟩ := hurl.segments
  have htext : p.url.path.text ≠ [] := by
    obtain ⟨s, ss, rfl⟩ := List.exists_cons_of_ne_nil hne
    simp [hpath, Url.Path.text]
  have htarget : Wire.splitTarget p.toWire.target = (p.url.path.text, p.url.query.getD []) :=
    Url.splitTarget_target hurl
  unfold Wire.toRequest
  rw [htarget, allHeaders_toWire]
  dsimp only
  rw [if_neg htext, filter_isReadable_headers]
  rfl

theorem readBody_eq_iff {body : Json} (h : p.body = some body) :
    p.readBody = body ↔
      Json.read body.text = .ok body ∧ body.text.utf8ByteSize ≤ Wire.maxLength := by
  -- what cannot be read is `null`, and that would have been read
  have hnull : Json.null = body →
      Json.read body.text = .ok body ∧ body.text.utf8ByteSize ≤ Wire.maxLength := by
    rintro rfl
    exact ⟨Json.Faithful.read_text (.null _), by decide⟩
  rw [readBody, Wire.readBody, announcesJson_headers h, h, Option.map_some, Option.getD_some,
    Bool.true_and]
  by_cases hlength : body.text.utf8ByteSize ≤ Wire.maxLength
  · rw [if_pos (decide_eq_true hlength)]
    cases hread : Json.read body.text with
    | ok value =>
        dsimp only
        constructor
        · rintro rfl
          exact ⟨rfl, hlength⟩
        · rintro ⟨hsame, -⟩
          exact Except.ok.inj hsame
    | error cause =>
        dsimp only
        rw [← hread]
        constructor
        · exact hnull
        · rintro ⟨hsame, -⟩
          cases hread.symm.trans hsame
  · rw [if_neg (by simpa using hlength)]
    constructor
    · exact hnull
    · rintro ⟨-, hsame⟩
      exact absurd hsame hlength

theorem readBody_of_none (h : p.body = none) : p.readBody = .null := by
  rw [readBody, Wire.readBody, headers, h]
  rfl

/-- **What is prepared arrives** exactly if the body is read back and is not too long. -/
theorem toRequest_toWire_iff (hurl : p.url.Requestable) :
    Wire.toRequest p.toWire = p.received ↔ p.Arrives := by
  have hbody : Wire.toRequest p.toWire = p.received ↔ p.readBody = p.body.getD .null := by
    rw [toRequest_toWire hurl]
    simp [received]
  rw [hbody, Arrives]
  cases h : p.body with
  | none => simp [readBody_of_none h]
  | some body => simpa using readBody_eq_iff h

/-- What a handler is told about the request. -/
def context (p : Prepared) (captured : Entries Json) : Context :=
  { method := p.method
    path := p.received.path
    pathParameters := captured
    query := p.url.queryValue
    body := p.body.getD .null
    headers := p.headers }

/-- The answer as a client gets it. -/
def answer (p : Prepared) (r : Response) : WireResponse :=
  let sent := Wire.ofResponse (Service.finish p.method r)
  if p.method = Verb.head.method then { sent with body := "" } else sent

end Prepared

/-! ## From the path to the handler -/

/-- What comes of a prepared request when its operation answers it: the handler runs on what is
captured in the path, on the query of the URL and on the body. -/
def Endpoint.answer {σ : Type} (e : Endpoint σ) (registry : Registry) (captured : Entries Json)
    (p : Prepared) (store : σ) : Option WireResponse × σ :=
  let (outcome, after, draft) :=
    (e.handler (e.arguments registry (p.context captured))).exec store {}
  (some (p.answer (e.respond registry outcome draft)), after)

namespace Service

variable {σ : Type} {s : Service σ} {definition : Definition} {handlers : Handlers σ}
  {registry : Registry} {mount : Mount} {path : String} {i : Nat}

/-- A path with its slashes in order goes where the path goes. -/
theorem route_of_chosen?_normalize
    (hs : Service.bind definition handlers registry mount = .ok s) {exchange : Exchange σ}
    (hpath : exchange.request.path = String.ofList (Wire.normalize path.toList))
    (hchosen : s.chosen? exchange.request.method path = some i) :
    ∃ e relative captured, s.endpoints[i]? = some e ∧
      Mount.relative? s.basePath path = some relative ∧
      e.template.capture? relative = some captured ∧
      s.route exchange = s.serve e captured exchange := by
  obtain ⟨relative, hrelative, hshows, hplace⟩ := chosen?_eq_some_iff.1 hchosen
  have hbelow := hrelative
  rw [(Service.bind_ok hs).1] at hbelow
  obtain ⟨normal, hnormal, hsegments⟩ := Mount.relative?_normalize hbelow
  rw [← (Service.bind_ok hs).1, ← hpath] at hnormal
  rw [← showsDocument_congr hsegments] at hshows
  rw [← place?_congr hsegments, ← place?_congr hsegments] at hplace
  obtain ⟨e, captured, he, hcaptured, hselect⟩ := select?_of_place? hplace
  refine ⟨e, relative, captured, he, hrelative, ?_, ?_⟩
  · rw [← Template.capture?_congr _ hsegments, hcaptured]
  · rw [route_eq, hnormal]
    dsimp only
    rw [if_neg hshows, hselect]

/-- The operation that the path goes to answers the request as it was prepared. -/
theorem direct_of_chosen? (hs : Service.bind definition handlers registry mount = .ok s)
    {p : Prepared} (hurl : p.url.Requestable) (harrives : p.Arrives)
    (hchosen : s.chosen? p.method p.url.requestPath = some i) (store : σ) :
    ∃ e relative captured, s.endpoints[i]? = some e ∧
      Mount.relative? s.basePath p.url.requestPath = some relative ∧
      e.template.capture? relative = some captured ∧
      Transport.direct s.route p store = e.answer s.registry captured p store := by
  have harrived := (Prepared.toRequest_toWire_iff hurl).2 harrives
  have hpath : p.received.path =
      String.ofList (Wire.normalize p.url.requestPath.toList) := by
    rw [Url.requestPath, String.toList_ofList]
    rfl
  obtain ⟨e, relative, captured, he, hrelative, hcaptured, hroute⟩ :=
    @route_of_chosen?_normalize σ s definition handlers registry mount p.url.requestPath i hs
      ⟨p.received, store⟩ hpath hchosen
  refine ⟨e, relative, captured, he, hrelative, hcaptured, ?_⟩
  unfold Transport.direct Wire.serve
  rw [harrived, hroute]
  rfl

end Service

namespace Action

variable {σ : Type} {a : Action} {given : List Json} {p : Prepared}

theorem requestable_of_prepare (hbase : a.base.Requestable) (h : a.prepare given = .ok p) :
    p.url.Requestable := by
  obtain ⟨-, -, -, ss, texts, hpath, -, hurl⟩ := prepare_ok h
  rw [hurl]
  exact (hbase.withSegments hpath texts).addPairs _

theorem keys_arguments_sublist (schema : Schema) :
    (Entries.keys (a.arguments schema given)).Sublist (Entries.keys schema) := by
  unfold arguments
  induction schema with
  | nil => exact .slnil
  | cons entry schema ih =>
      obtain ⟨name, field⟩ := entry
      rw [List.filterMap_cons]
      dsimp only
      cases a.argument given name field with
      | none => exact ih.cons name
      | some value => exact ih.cons_cons name

theorem mem_or_fallback_of_argument {name : String} {field : Field} {value : Json}
    (h : a.argument given name field = some value) :
    value ∈ given ∨ field.fallback = some value := by
  unfold argument at h
  split at h
  · rename_i sent hsent
    obtain ⟨i, -, hi⟩ := Option.bind_eq_some_iff.1 hsent
    split at h
    · obtain rfl := Option.some.inj h
      exact .inl (List.mem_of_getElem? hi)
    · exact .inr h
  · exact .inr h

/-- A body of values that lose nothing in their texts loses nothing in its own. -/
theorem arrives_of_prepare (h : a.prepare given = .ok p)
    (hgiven : ∀ value ∈ given, value.Faithful (Json.depthLimit - 1))
    (hdeclared : ∀ schema, a.inputs.body = some schema → Entries.Distinct schema ∧
      ∀ entry ∈ schema, ∀ value, entry.2.fallback = some value →
        value.Faithful (Json.depthLimit - 1))
    (hlength : ∀ body, p.body = some body → body.text.utf8ByteSize ≤ Wire.maxLength) :
    p.Arrives := by
  intro body hbody
  refine ⟨?_, hlength body hbody⟩
  obtain ⟨-, -, hmade, -⟩ := prepare_ok h
  rw [hmade] at hbody
  unfold Action.body at hbody
  split at hbody
  · rename_i schema hschema
    obtain ⟨hnames, hdefaults⟩ := hdeclared schema hschema
    split at hbody
    · obtain rfl := Option.some.inj hbody
      refine Json.Faithful.read_text (.object (hnames.sublist (keys_arguments_sublist schema)) ?_)
      intro member hmember
      obtain ⟨field, hfield, hvalue⟩ := mem_arguments hmember
      rcases mem_or_fallback_of_argument hvalue with hmem | hfallback
      · exact hgiven _ hmem
      · exact hdefaults _ hfield _ hfallback
    · cases hbody
  · cases hbody

/-- **What is prepared is delivered**: where the path of a call goes to its operation, the operation
answers the request as it was prepared. -/
theorem direct_of_chosen? {s : Service σ} {definition : Definition} {handlers : Handlers σ}
    {registry : Registry} {mount : Mount}
    (hs : Service.bind definition handlers registry mount = .ok s) {i : Nat} {e : Endpoint σ}
    (he : s.endpoints[i]? = some e) {base : Url} (hbase : base.Requestable)
    (hbasePath : base.basePath = s.basePath)
    (h : (ofPlaced base e.placed).prepare given = .ok p) (harrives : p.Arrives)
    (hchosen : s.chosen? p.method p.url.requestPath = some i) {captured : Entries Json}
    (hreaches : (ofPlaced base e.placed).Reaches p captured) (store : σ) :
    Transport.direct s.route p store = e.answer s.registry captured p store := by
  obtain ⟨other, relative, values, hother, hrelative, hvalues, hdirect⟩ :=
    Service.direct_of_chosen? hs (requestable_of_prepare hbase h) harrives hchosen store
  obtain rfl := Option.some.inj (he.symm.trans hother)
  obtain ⟨below, hbelow, hcaptured⟩ := hreaches
  change Mount.relative? base.basePath _ = _ at hbelow
  rw [hbasePath, hrelative] at hbelow
  obtain rfl := Option.some.inj hbelow
  have hbound := (Service.bind_ok hs).2.2.2.2 e (List.mem_of_getElem? he)
  rw [(Endpoint.bind_ok hbound).2.1] at hvalues
  obtain rfl := Option.some.inj (hvalues.symm.trans hcaptured)
  exact hdirect

end Action

/-! ## The way back -/

namespace Client

variable {σ : Type} {c : Client} {transport : Transport σ} {name : String} {given : List Json}
  {store after : σ} {p : Prepared}

/-- The value of an answer that is no error is what the call gives. -/
theorem call_of_answer (hprepare : c.prepare name given = .ok p) (hmethod : p.method ≠ "HEAD")
    {status : Nat} (hstatus : ¬ (400 ≤ status ∧ status < 600)) {value : Json}
    (hvalue : value.Faithful Json.depthLimit) {headers : Headers}
    (hheaders : Wire.findHeaderFault (Response.json status value headers).headers.entries = none)
    (hsent : transport p store = (some (p.answer (.json status value headers)), after)) :
    c.call transport name given store = (.ok value, after) := by
  have hanswer : p.answer (.json status value headers) =
      { status, headers := (Response.json status value headers).headers.entries
        body := value.text } := by
    unfold Prepared.answer Service.finish Wire.ofResponse
    rw [if_neg hmethod, hheaders]
    exact if_neg hmethod
  have hne : value.text ≠ "" := by
    obtain ⟨c, cs, hrender, -⟩ := hvalue.readsAt.starts
    rw [Json.text, hrender, Ne, String.ofList_eq_empty_iff]
    exact List.cons_ne_nil c cs
  rw [call, hprepare]
  dsimp only
  rw [Transport.send, hsent, hanswer]
  dsimp only
  rw [if_neg hstatus]
  show ((readAnswer value.text), after) = _
  rw [readAnswer, if_neg hne, hvalue.read_text]
  rfl

/-- `POST users/:id`, which renames a user. -/
def renameUser : Placed where
  path := "users/:id"
  verb := .post
  operation :=
    { target := { action := "rename", mapping := some ["id", "name"] }
      inputs := { url := some (.flag true), body := some [("name", {})] } }

/-- The definition of an API with this operation. -/
def addressBook : Definition where
  raw := .null
  document := { version := 1, routes := [("users/:id", ⟨[(.post, renameUser.operation)]⟩)] }

/-- Handlers with one action that returns its second argument. -/
def echoes : Handlers Unit :=
  Handlers.register {} none [("rename", fun arguments =>
    .done (.returned ((arguments.value? 1).getD .null)))]

/-- `http://localhost/api/v1/`. -/
def localApi : Url where
  scheme := "http"
  authority := some { host := .name ['l', 'o', 'c', 'a', 'l', 'h', 'o', 's', 't'] }
  path := .segments [['a', 'p', 'i'], ['v', '1'], []]

theorem requestable_localApi : localApi.Requestable := by
  refine ⟨⟨?_, List.not_mem_nil⟩, _, rfl, by decide⟩
  rintro _ hpath
  obtain rfl := Url.Path.segments.inj hpath
  unfold Url.InPath
  decide

theorem value?_renameUser {e : Endpoint σ} (he : e.placed = renameUser) (registry : Registry)
    (hbody : p.body = some (.object [("name", .string "Ann")])) (captured : Entries Json) :
    (e.arguments registry (p.context captured)).value? 1 = some (.string "Ann") := by
  have hsent : Entries.Gives (p.body.getD .null).members "name" (.string "Ann") := by
    rw [hbody]
    exact ⟨by decide, by simp [Json.members]⟩
  have hheaders : Schema.LeavesOut [] (p.headers.toMembers []) "name" := by
    refine Headers.leavesOut_toMembers (by simp [Entries.keys]) fun entry hentry => ?_
    rw [Prepared.headers, hbody] at hentry
    simp only [List.mem_cons, List.not_mem_nil, or_false] at hentry
    rcases hentry with rfl | rfl
    · decide
    · show Headers.parameterName [] Wire.contentLength ≠ "name"
      decide
  have hshaped : shapeValue registry (.string "Ann") {} = .string "Ann" := by
    rw [shapeValue_of_truthy _ _ _ (by decide)]
    rfl
  have hget := @Inputs.get?_gather_of_body renameUser.operation.inputs registry captured
    p.url.queryValue (p.body.getD .null) p.headers "name" {} rfl _ hsent hheaders
  rw [hshaped] at hget
  unfold Endpoint.arguments
  rw [he]
  exact Arguments.value?_bind rfl (by decide) (by decide) hget

/-- The name that is sent comes back to the caller. -/
theorem addressBook_called :
    ∃ s : Service Unit, Service.bind addressBook echoes {} { prefixPath := "" } = .ok s ∧
      (ofDefinition localApi addressBook).call (Transport.direct s.route) "rename"
        [.string "7", .string "Ann"] () = (.ok (.string "Ann"), ()) := by
  obtain ⟨s, e, p, captured, hs, he, hplaced, hhandler, hp, hmethod, hbody, hbase, hchosen,
      hreaches⟩ :
      ∃ (s : Service Unit) (e : Endpoint Unit) (p : Prepared) (captured : Entries Json),
        Service.bind addressBook echoes {} { prefixPath := "" } = .ok s ∧
        s.endpoints[0]? = some e ∧ e.placed = renameUser ∧
        (∀ arguments, e.handler arguments =
          .done (.returned ((arguments.value? 1).getD .null))) ∧
        (Action.ofPlaced localApi renameUser).prepare [.string "7", .string "Ann"] = .ok p ∧
        p.method = "POST" ∧ p.body = some (.object [("name", .string "Ann")]) ∧
        localApi.basePath = s.basePath ∧ s.chosen? p.method p.url.requestPath = some 0 ∧
        (Action.ofPlaced localApi renameUser).Reaches p captured :=
    ⟨_, _, _, _, rfl, rfl, rfl, fun _ => rfl, rfl, rfl, rfl, by decide, by decide, _, rfl, rfl⟩
  have harrives : p.Arrives := by
    refine Action.arrives_of_prepare hp (by simp) ?_ ?_
    · intro schema hschema
      obtain rfl : [("name", {})] = schema := Option.some.inj hschema
      simp [Entries.Distinct, Entries.keys]
    · intro body hsome
      obtain rfl := Option.some.inj (hbody.symm.trans hsome)
      decide
  have hcall : (ofDefinition localApi addressBook).prepare "rename" [.string "7", .string "Ann"] =
      .ok p := hp
  rw [← hplaced] at hp hreaches
  have hdirect := Action.direct_of_chosen? hs he requestable_localApi hbase hp harrives hchosen
    hreaches ()
  rw [Endpoint.answer, hhandler, value?_renameUser hplaced s.registry hbody captured] at hdirect
  have hresponse : e.respond s.registry (.returned (.string "Ann")) {} =
      .json 200 (.string "Ann") {} := by
    unfold Endpoint.respond Endpoint.shapeBody
    rw [hplaced]
    rfl
  have hanswer : Transport.direct s.route p () =
      (some (p.answer (.json 200 (.string "Ann") {})), ()) := by
    rw [← hresponse]
    exact hdirect
  exact ⟨s, hs, call_of_answer hcall (by rw [hmethod]; decide) (by decide) (.string _ _)
    (by decide) hanswer⟩

end Client

end Switchboard
