import Switchboard.Proofs.Client.Arguments
import Switchboard.Proofs.Client.Placement
import Switchboard.Proofs.Handler.Gather
import Switchboard.Server.Service

/-!
# Clients and servers agree on positions

A client takes its arguments by position and spreads them over a request; a
server collects the parts of the request and gives them to its handler by
position.  Both have only the document to go by, and in an unambiguous operation
every argument comes out at the position where it went in, the request itself
not counted.

The argument goes part by part.  The texts that make up the path all stay, so
the server finds the route (`reaches`) and captures the plain text of every
argument in the path (`captures`); the arguments of the query and of the body are
sent under their names.  No part knows a name that belongs to another, so nothing
is overwritten when the parts are merged (`get?_gather`).

The server is taken to get the body as the value that was prepared, and the JSON text
between the two is left out here.  A value that loses nothing in its text is read back
from it (`Json.Faithful.read_text`), and then the handler does get it
(`Action.direct_of_chosen?`); a number such as `98765432.12345679` is read back as its
neighbour (`Json.read_drifting`).
-/

namespace Switchboard

namespace Placed

/-- The arguments are as many as the operation takes, all of them count as given, and those that go
into the path make a segment each. -/
structure Suits (p : Placed) (given : List Json) : Prop where
  length_eq : given.length = p.operation.target.clientMapping.length
  truthy : ∀ value ∈ given, value.isTruthy = true
  fills : (p.operation.inputs.url.map UrlInputs.isDeclared).getD false = true →
    ∀ (i : Nat) (name token : String) (value : Json),
      p.operation.target.clientMapping[i]? = some name → token ∈ p.tokens →
      Text.eqIgnoringAsciiCase name token = true → given[i]? = some value →
      Url.FillsSegment value.plainText

/-- The literals of the path are sent as they are. -/
def LiteralsStay (p : Placed) (scheme : String) : Prop :=
  ∀ text ∈ pathSegments p.path, Segment.ofText text = .literal (String.ofList text) →
    Url.SentAsIs scheme text

/-- No header of the request counts under the name of an argument. -/
def HeadersApart (p : Placed) (headers : Headers) : Prop :=
  ∀ name ∈ p.operation.target.clientMapping, ∀ entry ∈ headers.entries,
    Headers.parameterName (p.operation.inputs.header.getD []) entry.1 ≠ name

/-- The captured values are the plain texts of the arguments in the path, and nothing else. -/
structure Captures (p : Placed) (given : List Json) (captured : Entries Json) : Prop where
  gives : (p.operation.inputs.url.map UrlInputs.isDeclared).getD false = true →
    ∀ (i : Nat) (name : String) (value : Json),
      p.operation.target.clientMapping[i]? = some name → name ∈ p.tokens →
      given[i]? = some value →
      value.plainText ≠ [] ∧
        Entries.Gives captured name (.string (String.ofList value.plainText))
  absent : ∀ name, name ∉ p.tokens → name ∉ Entries.keys captured

section Path

variable {p : Placed} {base : Url} {given : List Json} {texts : List (List Char)}

/-- Where an argument goes into the path. -/
private theorem fills_of_paired (hp : p.Unambiguous) (hgiven : p.Suits given)
    (hdeclared : (p.operation.inputs.url.map UrlInputs.isDeclared).getD false = true) {i j : Nat}
    {value : Json} (hpaired : Slot.Paired p.operation.target.clientMapping p.slots i j)
    (hvalue : given[i]? = some value) :
    Url.FillsSegment value.plainText ∧
      ∀ text, (pathSegments p.path)[j]? = some text →
        Segment.ofText text ≠ .literal (String.ofList text) := by
  obtain ⟨name, slot, hname, hslot, hawaits, -⟩ := hpaired
  have hne := hp.ne_empty name (List.mem_of_getElem? hname)
  obtain ⟨token, htoken, hplace, hsame⟩ := token_of_awaits hne hslot hawaits
  refine ⟨hgiven.fills hdeclared i name token value hname ?_ hsame hvalue, ?_⟩
  · exact Template.mem_parameterNames_iff.2 ⟨List.mem_of_getElem? hplace, htoken⟩
  · intro text htext
    obtain rfl : ':' :: token.toList = text := by
      rw [hplace] at htext
      exact Option.some.inj htext
    rw [Segment.ofText_eq_parameter_iff.2 ⟨rfl, htoken⟩]
    simp

/-- A segment of the route makes a segment if it is sent as it is declared. -/
private theorem stays_of_mem_pathSegments {scheme : String} (hliterals : p.LiteralsStay scheme)
    {text : List Char} (hmem : text ∈ pathSegments p.path) : Url.Stays text := by
  rcases Segment.ofText_cases text with ⟨name, hparameter⟩ | hliteral
  · rw [(Segment.ofText_eq_parameter_iff.1 hparameter).1]
    exact Url.stays_colon_cons _
  · have hasis := hliterals text hmem hliteral
    exact (Url.stays_and_sent_eq_iff.2 ⟨(Text.mem_parts hmem).1, hasis⟩).1

/-- Every text of the path makes a segment. -/
private theorem stays_of_mem (hp : p.Unambiguous) (hgiven : p.Suits given)
    (hliterals : p.LiteralsStay base.scheme)
    (htexts : (Action.ofPlaced base p).segments given = .ok texts) :
    ∀ text ∈ texts, Url.Stays text := by
  intro text htext
  obtain ⟨j, hj⟩ := List.getElem?_of_mem htext
  have hlt : j < (pathSegments p.path).length := by
    have hlen : texts.length = (pathSegments p.path).length := Action.length_segments htexts
    rw [← hlen]
    exact (List.getElem?_eq_some_iff.1 hj).1
  have hroute := List.getElem?_eq_getElem hlt
  rcases Action.getElem?_segments htexts hroute with
    hsame | ⟨hdeclared, i, value, hpaired, hvalue, hput⟩
  · rw [hj, Option.some.injEq] at hsame
    rw [hsame]
    exact stays_of_mem_pathSegments hliterals (List.mem_of_getElem? hroute)
  · rw [hj, Option.some.injEq] at hput
    rw [hput]
    exact (fills_of_paired hp hgiven hdeclared hpaired hvalue).1.stays

/-- The server finds the route, and what it finds are the encoded texts. -/
private theorem reaches (hp : p.Unambiguous) (hgiven : p.Suits given)
    (hliterals : p.LiteralsStay base.scheme) {r : Prepared}
    (hr : (Action.ofPlaced base p).prepare given = .ok r)
    (htexts : (Action.ofPlaced base p).segments given = .ok texts) {ss : List (List Char)}
    (hbase : base.path = .segments ss) (hdrive : ¬ Url.MakesDrive base.scheme ss texts) :
    ∃ relative captured, Mount.relative? base.basePath r.url.requestPath = some relative ∧
      (Template.ofPath p.path).capture? relative = some captured ∧
      pathSegments relative = texts.map (Url.sent base.scheme) := by
  have hstays := stays_of_mem hp hgiven hliterals htexts
  obtain ⟨relative, hrelative, hsegments⟩ := Url.below_of_stays hbase hstays hdrive
  have hfits : ∃ captured, (Template.ofPath p.path).capture? relative = some captured := by
    rw [Template.exists_capture?_iff, hsegments, List.length_map]
    refine ⟨Action.length_segments htexts, ?_⟩
    intro j text htext hliteral
    rw [List.getElem?_map]
    rcases Action.getElem?_segments htexts htext with
      hsame | ⟨hdeclared, i, value, hpaired, hvalue, -⟩
    · have hmem := List.mem_of_getElem? htext
      have hasis := hliterals text hmem hliteral
      rw [hsame, Option.map_some,
        (Url.stays_and_sent_eq_iff.2 ⟨(Text.mem_parts hmem).1, hasis⟩).2]
    · exact absurd hliteral ((fills_of_paired hp hgiven hdeclared hpaired hvalue).2 text htext)
  obtain ⟨captured, hcaptured⟩ := hfits
  refine ⟨relative, captured, ?_, hcaptured, hsegments⟩
  obtain ⟨-, -, -, ss', texts', hbase', htexts', hurl⟩ := Action.prepare_ok hr
  obtain rfl : ss = ss' := by
    have hsame := hbase.symm.trans hbase'
    injection hsame
  obtain rfl : texts = texts' := Except.ok.inj (htexts.symm.trans htexts')
  rw [hurl, Url.requestPath, Url.addPairs_path]
  exact hrelative

/-- What the server captures in the path. -/
private theorem captures (hp : p.Unambiguous) (hgiven : p.Suits given)
    (htexts : (Action.ofPlaced base p).segments given = .ok texts) {relative : String}
    {captured : Entries Json}
    (hcaptured : (Template.ofPath p.path).capture? relative = some captured)
    (hsegments : pathSegments relative = texts.map (Url.sent base.scheme)) :
    p.Captures given captured := by
  refine ⟨?_, fun name htoken => Template.notMem_keys_capture? hcaptured htoken⟩
  intro hdeclared i name value hname htoken hvalue
  obtain ⟨-, hne⟩ := Template.mem_parameterNames_iff.1 htoken
  obtain ⟨j, hplace, hpaired⟩ := hp.paired_of_mem_tokens hname htoken
  have hfills := (fills_of_paired hp hgiven hdeclared hpaired hvalue).1
  obtain ⟨other, hother, hput⟩ := Action.getElem?_segments_of_paired htexts hdeclared hpaired
  obtain rfl : value = other := Option.some.inj (hvalue.symm.trans hother)
  have hpart : (pathSegments relative)[j]? = some (Url.sent base.scheme value.plainText) := by
    rw [hsegments, List.getElem?_map, hput, Option.map_some]
  have hget := Template.get?_capture?_of_last hcaptured hne hplace
    (fun k hk => hp.place_unique hne hplace hk) hpart
  rw [Url.decode_sent, hfills.kept_eq] at hget
  exact ⟨hfills.ne_nil, (Template.distinct_capture? hcaptured).gives hget⟩

end Path

/-- The merged parts of a request hold under each name what was given for it. -/
private theorem get?_gather {p : Placed} (hp : p.Unambiguous) {base : Url} {given : List Json}
    (hgiven : p.Suits given) {r : Prepared}
    (hr : (Action.ofPlaced base p).prepare given = .ok r) (hquery : base.query.getD [] = [])
    {headers : Headers} (hheaders : p.HeadersApart headers) {captured : Entries Json}
    (hcaptures : p.Captures given captured) (registry : Registry) {i : Nat} {name : String}
    (hname : p.operation.target.clientMapping[i]? = some name) {value : Json}
    (hvalue : given[i]? = some value) {part : Part} (hpart : p.Holds name part) :
    Entries.get? (p.operation.inputs.gather registry captured r.url.queryValue
      (r.body.getD .null) headers) name = some (part.received registry value) := by
  have hmem := List.mem_of_getElem? hname
  have htruthy := hgiven.truthy value (List.mem_of_getElem? hvalue)
  have hheader := Headers.leavesOut_toMembers (hp.no_header name hmem) (hheaders name hmem)
  -- a parameter of the path is neither in the query nor in the body
  have hfromPath : (p.operation.inputs.url.map UrlInputs.isDeclared).getD false = true →
      name ∈ p.tokens → name ∉ Entries.keys (p.operation.inputs.query.getD []) →
      name ∉ Entries.keys (p.operation.inputs.body.getD []) →
      Entries.Gives captured name (.string (String.ofList value.plainText)) ∧
        Entries.get? (p.operation.inputs.gather registry captured r.url.queryValue
          (r.body.getD .null) headers) name =
          Entries.get? (p.operation.inputs.shapePath registry captured) name := by
    intro hdeclared htoken hnoQuery hnoBody
    obtain ⟨hplain, hgives⟩ := hcaptures.gives hdeclared i name value hname htoken hvalue
    refine ⟨hgives, Inputs.get?_gather_of_path hgives (by simpa [Json.isTruthy] using hplain)
      ⟨hnoQuery, Action.notMem_keys_queryValue hr hquery hnoQuery⟩
      ⟨hnoBody, Action.notMem_keys_body hr hnoBody⟩ hheader⟩
  cases hpart with
  | path htoken hurl hnoQuery hnoBody =>
      obtain ⟨hgives, hgather⟩ := hfromPath (by rw [hurl]; rfl) htoken hnoQuery hnoBody
      rw [hgather, Inputs.shapePath, hurl]
      exact hgives.get?_eq
  | pathField htoken hurl hfield hnoQuery hnoBody =>
      obtain ⟨hgives, hgather⟩ := hfromPath (by rw [hurl]; rfl) htoken hnoQuery hnoBody
      rw [hgather, Inputs.shapePath, hurl]
      exact (Schema.gives_shape hfield hgives).get?_eq
  | query htoken hfield hnoBody =>
      have hdeclared := Entries.mem_keys_of_mem (Entries.mem_of_get?_eq_some hfield)
      have harrived := Action.get?_queryValue hr hp.nodup hname hvalue htruthy hdeclared
      have hdistinct : Entries.Distinct r.url.queryValue.members := Entries.distinct_ofPairs _
      exact Inputs.get?_gather_of_query hfield (hcaptures.absent name htoken) hdistinct harrived
        ⟨hnoBody, Action.notMem_keys_body hr hnoBody⟩ hheader
  | body htoken hnoQuery hfield hverb =>
      have hdeclared := Entries.mem_keys_of_mem (Entries.mem_of_get?_eq_some hfield)
      have harrived := Action.gives_body hr hp.nodup hname hvalue htruthy hdeclared hverb
      exact Inputs.get?_gather_of_body hfield harrived hheader

end Placed

namespace Endpoint

/--
**Positional parity**: in an unambiguous operation every call with suitable arguments is prepared
and reaches its route, and the handler gets every argument at the position of its name, in the form
of the part of the request in which it came.
-/
theorem arguments_of_prepare {σ : Type} {e : Endpoint σ} (hp : e.placed.Unambiguous)
    {base : Url} (hliterals : e.placed.LiteralsStay base.scheme) {given : List Json}
    (hgiven : e.placed.Suits given) {headers : Headers} (hheaders : e.placed.HeadersApart headers)
    {ss : List (List Char)} (hbase : base.path = .segments ss) (hquery : base.query.getD [] = [])
    (hdrive : ∀ texts, (Action.ofPlaced base e.placed).segments given = .ok texts →
      ¬ Url.MakesDrive base.scheme ss texts)
    (registry : Registry) :
    ∃ r captured, (Action.ofPlaced base e.placed).prepare given = .ok r ∧
      (Action.ofPlaced base e.placed).Reaches r captured ∧
      ∀ context : Context, context.pathParameters = captured → context.query = r.url.queryValue →
        context.body = r.body.getD .null → context.headers = headers →
        ∀ (position : Nat) (name : String),
          e.placed.operation.target.serverMapping[position]? = some name →
          (name = contextName →
            (e.arguments registry context).argument? position = some .context) ∧
          (name ≠ contextName →
            ∃ value, given[e.placed.operation.target.clientPosition position]? = some value ∧
              ∀ part, e.placed.Holds name part →
                (e.arguments registry context).value? position =
                  some (part.received registry value)) := by
  obtain ⟨r, hr⟩ := Action.prepare_isOk (a := Action.ofPlaced base e.placed) hbase hgiven.length_eq
  obtain ⟨texts, htexts⟩ := Action.segments_isOk (a := Action.ofPlaced base e.placed)
    (Nat.le_of_eq hgiven.length_eq.symm)
  obtain ⟨relative, captured, hrelative, hcaptured, hsegments⟩ :=
    Placed.reaches hp hgiven hliterals hr htexts hbase (hdrive texts htexts)
  have hcaptures := Placed.captures hp hgiven htexts hcaptured hsegments
  refine ⟨r, captured, hr, ⟨relative, hrelative, hcaptured⟩, ?_⟩
  rintro context rfl hcontextQuery hcontextBody rfl position name hposition
  constructor
  · rintro rfl
    exact Arguments.argument?_bind_context hposition
  · intro hclient
    have hname := Target.clientMapping_clientPosition hposition hclient
    have hlt : e.placed.operation.target.clientPosition position < given.length := by
      rw [hgiven.length_eq]
      exact (List.getElem?_eq_some_iff.1 hname).1
    refine ⟨_, List.getElem?_eq_getElem hlt, fun part hpart => ?_⟩
    have hget := Placed.get?_gather hp hgiven hr hquery hheaders hcaptures registry hname
      (List.getElem?_eq_getElem hlt) hpart
    rw [← hcontextQuery, ← hcontextBody] at hget
    refine Arguments.value?_bind hposition hclient ?_ hget
    exact Arguments.dropStart?_contextStart_of_undotted
      (hp.undotted name (List.mem_of_getElem? hname))

/-- `POST users/:id/posts`, with one argument in each part of the request. -/
def writePost : Endpoint Unit where
  placed :=
    { path := "users/:id/posts"
      verb := .post
      operation :=
        { target := { action := "write", mapping := some ["notify", "ctx", "id", "title"] }
          inputs :=
            { url := some (.flag true)
              query := some [("notify", { typeName := some "int" })]
              body := some [("title", {})] } } }
  template := .ofPath "users/:id/posts"
  handler := fun _ => .done (.returned .null)

private theorem writePost_unambiguous : writePost.placed.Unambiguous := by
  refine ⟨by decide, by decide, by decide, by decide, ?_, by decide⟩
  intro name hname
  obtain rfl | rfl | rfl : name = "notify" ∨ name = "id" ∨ name = "title" := by
    simpa [writePost, Target.clientMapping, Target.serverMapping, contextName] using hname
  · exact ⟨_, .query (by decide) rfl (by decide)⟩
  · exact ⟨_, .path (by decide) rfl (by decide) (by decide)⟩
  · exact ⟨_, .body (by decide) (by decide) rfl rfl⟩

private theorem writePost_suits :
    writePost.placed.Suits [.string "2", .string "a b", .string "Hello"] := by
  refine ⟨rfl, by decide, ?_⟩
  intro _ i name token value hname htoken hsame hvalue
  rw [show writePost.placed.tokens = ["id"] from rfl, List.mem_singleton] at htoken
  subst htoken
  match i with
  | 0 =>
      obtain rfl : "notify" = name := Option.some.inj hname
      exact absurd hsame (by decide)
  | 1 =>
      obtain rfl : Json.string "a b" = value := Option.some.inj hvalue
      decide
  | 2 =>
      obtain rfl : "title" = name := Option.some.inj hname
      exact absurd hsame (by decide)
  | _ + 3 => exact absurd hvalue (by simp)

/-- The identifier in the path of a post is delivered behind the request itself. -/
theorem writePost_delivers :
    ∃ r captured, (Action.ofPlaced .localhost writePost.placed).prepare
        [.string "2", .string "a b", .string "Hello"] = .ok r ∧
      (Action.ofPlaced .localhost writePost.placed).Reaches r captured ∧
      ∀ context : Context, context.pathParameters = captured → context.query = r.url.queryValue →
        context.body = r.body.getD .null → context.headers = {} →
        (writePost.arguments {} context).value? 2 = some (.string "a b") := by
  have hliterals : writePost.placed.LiteralsStay "http" := by
    unfold Placed.LiteralsStay
    decide
  have hheaders : writePost.placed.HeadersApart {} := by
    unfold Placed.HeadersApart
    decide
  have hdrive : ∀ texts, (Action.ofPlaced .localhost writePost.placed).segments
      [.string "2", .string "a b", .string "Hello"] = .ok texts →
      ¬ Url.MakesDrive "http" [['v', '1'], []] texts := by
    intro texts _ hmakes
    exact absurd hmakes.1 (by decide)
  obtain ⟨r, captured, hr, hreaches, hdelivers⟩ :=
    @arguments_of_prepare _ writePost writePost_unambiguous .localhost hliterals _ writePost_suits _
      hheaders _ rfl rfl hdrive {}
  refine ⟨r, captured, hr, hreaches, ?_⟩
  intro context hpath hquery hbody hheaders
  obtain ⟨-, hvalue⟩ := hdelivers context hpath hquery hbody hheaders 2 "id" rfl
  obtain ⟨value, hgiven, hreceived⟩ := hvalue (by decide)
  obtain rfl : Json.string "a b" = value := Option.some.inj hgiven
  exact hreceived (.path none) (.path (by decide) rfl (by decide) (by decide))

/-- `GET :name`, a route that takes its only segment as an argument. -/
def readFile : Endpoint Unit where
  placed :=
    { path := ":name"
      verb := .get
      operation :=
        { target := { action := "read", mapping := some ["name"] }
          inputs := { url := some (.flag true) } } }
  template := .ofPath ":name"
  handler := fun _ => .done (.returned .null)

/-- `GET files/:ctx`, where the name of the request itself is a parameter and an argument of the
query has the same name in capitals. -/
def readShadowed : Placed where
  path := "files/:ctx"
  verb := .get
  operation :=
    { target := { action := "read", mapping := some ["ctx", "CTX"] }
      inputs := { url := some (.flag true), query := some [("CTX", {})] } }

/-- `file:///`. -/
def fileRoot : Url where
  scheme := "file"
  authority := some { host := .name [] }
  path := .segments [[]]

/-- `mailto:a@b`. -/
def mailbox : Url where
  scheme := "mailto"
  path := .flat ['a', '@', 'b']

/-- Three ways to lose an argument: below the root of a file system it is read as a drive, a flat
URL takes no segments, and an argument of the query goes into a parameter of the path as well and
makes no segment there. -/
theorem arguments_lost :
    (readFile.placed.Unambiguous ∧ readFile.placed.LiteralsStay fileRoot.scheme ∧
      readFile.placed.Suits [.string "c|"] ∧
      ∃ r captured, (Action.ofPlaced fileRoot readFile.placed).prepare [.string "c|"] = .ok r ∧
        (Action.ofPlaced fileRoot readFile.placed).Reaches r captured ∧
        ∀ method path, (readFile.arguments {}
          ⟨method, path, captured, r.url.queryValue, r.body.getD .null, {}⟩).value? 0 =
            some (.string "c:")) ∧
    (∃ error, (Action.ofPlaced mailbox readFile.placed).prepare [.string "c|"] = .error error) ∧
    (readShadowed.Unambiguous ∧ readShadowed.LiteralsStay Url.localhost.scheme ∧
      (∀ name ∈ readShadowed.operation.target.clientMapping, name ∉ readShadowed.tokens) ∧
      ∃ r, (Action.ofPlaced .localhost readShadowed).prepare [.string ".."] = .ok r ∧
        ¬ ∃ captured, (Action.ofPlaced .localhost readShadowed).Reaches r captured) := by
  refine ⟨⟨?_, ?_, ?_, _, _, rfl, ⟨"/c:", rfl, rfl⟩, fun method path => rfl⟩, ⟨_, rfl⟩,
    ?_, ?_, by decide, _, rfl, ?_⟩
  · refine ⟨by decide, by decide, by decide, by decide, ?_, by decide⟩
    intro name hname
    obtain rfl : name = "name" := by
      simpa [readFile, Target.clientMapping, Target.serverMapping, contextName] using hname
    exact ⟨_, .path (by decide) rfl (by decide) (by decide)⟩
  · unfold Placed.LiteralsStay
    decide
  · refine ⟨rfl, by decide, ?_⟩
    intro _ i name token value hname htoken hsame hvalue
    obtain rfl : Json.string "c|" = value := by
      have hmem := List.mem_of_getElem? hvalue
      exact (List.mem_singleton.1 hmem).symm
    decide
  · refine ⟨by decide, by decide, by decide, by decide, ?_, by decide⟩
    intro name hname
    obtain rfl : name = "CTX" := by
      simpa [readShadowed, Target.clientMapping, Target.serverMapping, contextName] using hname
    exact ⟨_, .query (by decide) rfl (by decide)⟩
  · unfold Placed.LiteralsStay
    decide
  · rintro ⟨captured, relative, hrelative, hcaptured⟩
    obtain rfl : "/files" = relative := by
      injection hrelative
    injection hcaptured

end Endpoint

end Switchboard
