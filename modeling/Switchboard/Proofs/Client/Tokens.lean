import Switchboard.Proofs.Client.Prepare
import Switchboard.Proofs.Handler.Gather
import Switchboard.Proofs.Route.Capture

/-!
# One mapping, two readings

A client and a server both read the mapping of an operation against its path.
The client pairs names with parameters in any spelling, first with first; the
server captures every parameter under its own spelling, and the last one wins.
Where only the path says anything, the two agree on the parameters that are
spelled like their name and stand last among those so spelled.

They do not agree on the others, and not on a name that asks the server for a part
of the request or on the empty name, whose place in a path is a literal for the
server.
-/

namespace Switchboard

namespace Slot

/-- The segment as it is sent: the argument encoded, a segment of the route as it is declared. -/
def sentAs (scheme : String) : Slot → List Char
  | declared text => text
  | filled text => Url.encode (Url.addedSegmentSet scheme) text

end Slot

namespace Placed

/-- The argument at a position of the handler for a request in which only the segments of the path
say anything. -/
def valueFromPath? (p : Placed) (registry : Registry) (context : Context)
    (segments : List (List Char)) (position : Nat) : Option Json :=
  ((Template.ofPath p.path).capture? (String.ofList (segments.flatMap ('/' :: ·)))).bind
    fun captured =>
      (Arguments.bind p.operation.target.serverMapping
        (p.operation.inputs.gather registry captured (.object []) .null {}) context).value? position

/-- The segments of the path filled with the arguments of a client. -/
def filledSlots (p : Placed) (given : List Json) : Except String (List Slot) :=
  Slot.fillAll p.operation.target.clientMapping given p.slots

/-- The argument of the name at a position of the handler goes into a segment of the path. -/
structure Feeds (p : Placed) (name : String) (position j : Nat) : Prop where
  named : p.operation.target.serverMapping[position]? = some name
  ne_context : name ≠ contextName
  paired : Slot.Paired p.operation.target.clientMapping p.slots
    (p.operation.target.clientPosition position) j

/-- The server reads the name from that segment, which is the last one so spelled. -/
structure ReadsFrom (p : Placed) (name : String) (j : Nat) : Prop where
  ne_empty : name ≠ ""
  apart : Text.dropStart? Arguments.contextStart name.toList = none
  spelled : (pathSegments p.path)[j]? = some (':' :: name.toList)
  last : ∀ k, j < k → (pathSegments p.path)[k]? ≠ some (':' :: name.toList)

/-- No argument has taken the place of a colon that stands alone. -/
def KeepsColons (p : Placed) (slots : List Slot) : Prop :=
  ∀ j : Nat, (pathSegments p.path)[j]? = some [':'] → slots[j]?.map Slot.text = some [':']

end Placed

namespace Action

theorem segments_ofPlaced {base : Url} {p : Placed} {given : List Json} {texts : List (List Char)}
    (hinputs : p.operation.inputs = { url := some (.flag true) })
    (h : (ofPlaced base p).segments given = .ok texts) :
    ∃ slots, p.filledSlots given = .ok slots ∧ texts = slots.map Slot.text := by
  obtain ⟨slots, hslots, rfl⟩ := segments_eq_ok_iff.1 h
  refine ⟨slots, ?_, rfl⟩
  simpa [Placed.filledSlots, Placed.slots, ofPlaced, hinputs, UrlInputs.isDeclared,
    Action.slots] using hslots

end Action

namespace Placed

variable {p : Placed} {given : List Json} {slots : List Slot}

/-- What stands at a place of the path of a route. -/
private theorem getElem?_filledSlots (h : p.filledSlots given = .ok slots) {j : Nat}
    {text : List Char} (htext : (pathSegments p.path)[j]? = some text) :
    (∃ i value, Slot.Paired p.operation.target.clientMapping p.slots i j ∧
        given[i]? = some value ∧ slots[j]? = some (.filled value.plainText)) ∨
      slots[j]? = some (.declared text) := by
  refine (Slot.getElem?_fillAll h j).imp_right fun hsame => ?_
  rw [hsame.2, Placed.slots, List.getElem?_map, htext, Option.map_some]

/-- The segments come out of the path as they were put into it. -/
private theorem pathSegments_sentAs (scheme : String) (h : p.filledSlots given = .ok slots)
    (hne : ∀ slot ∈ slots, slot.text ≠ []) :
    pathSegments (String.ofList ((slots.map (Slot.sentAs scheme)).flatMap ('/' :: ·))) =
      slots.map (Slot.sentAs scheme) := by
  rw [pathSegments, String.toList_ofList]
  refine Text.parts_flatMap_eq_self fun piece hpiece => ?_
  obtain ⟨slot, hslot, rfl⟩ := List.mem_map.1 hpiece
  obtain ⟨j, hj⟩ := List.getElem?_of_mem hslot
  cases slot with
  | filled text =>
      exact ⟨fun hnil => hne _ hslot (Url.encode_eq_nil_iff.1 hnil),
        Url.notMem_encode (Url.addedSegmentSet_of_segmentSet scheme (by decide)) (by decide) _⟩
  | declared text =>
      have hlt : j < (pathSegments p.path).length := by
        have hlen := Slot.length_fillAll h
        rw [Placed.slots, List.length_map] at hlen
        rw [← hlen]
        exact (List.getElem?_eq_some_iff.1 hj).1
      have htext := List.getElem?_eq_getElem hlt
      rcases getElem?_filledSlots h htext with ⟨i, value, -, -, hfilled⟩ | hsame
      · rw [hj] at hfilled
        simp at hfilled
      · rw [hj] at hsame
        obtain rfl := Slot.declared.inj (Option.some.inj hsame)
        exact Text.mem_parts (List.mem_of_getElem? htext)

/-- The route is found as long as every lone colon stays one. -/
private theorem exists_capture?_sentAs (scheme : String) (h : p.filledSlots given = .ok slots)
    (hne : ∀ slot ∈ slots, slot.text ≠ []) (hcolon : p.KeepsColons slots) :
    ∃ captured, (Template.ofPath p.path).capture?
      (String.ofList ((slots.map (Slot.sentAs scheme)).flatMap ('/' :: ·))) = some captured := by
  rw [Template.exists_capture?_iff, pathSegments_sentAs scheme h hne]
  refine ⟨by rw [List.length_map, Slot.length_fillAll h, Placed.slots, List.length_map], ?_⟩
  intro j text htext hliteral
  rw [List.getElem?_map]
  rcases getElem?_filledSlots h htext with ⟨i, value, hpaired, -, hfilled⟩ | hsame
  · -- only a lone colon is a literal and waits for an argument
    obtain ⟨name, slot, -, hslot, hawaits, -⟩ := hpaired
    rw [Placed.slots, List.getElem?_map, htext, Option.map_some, Option.some.injEq] at hslot
    subst hslot
    obtain ⟨spelling, heq, -⟩ := Slot.exists_of_awaits hawaits
    obtain rfl := Slot.declared.inj heq
    cases spelling with
    | cons c rest => simp [Segment.ofText] at hliteral
    | nil =>
        have hstays := hcolon j htext
        rw [hfilled, Option.map_some, Slot.text, Option.some.injEq] at hstays
        have hplain : Url.addedSegmentSet scheme ':' = false :=
          Url.addedSegmentSet_eq_false scheme (by decide) (by decide)
        rw [hfilled, Option.map_some, Slot.sentAs, hstays, Url.encode_eq_self_iff.2]
        simp [Url.IsPlain, hplain]
  · rw [hsame]
    rfl

end Placed

namespace Action

/--
**Token agreement**: where the path parameters are declared without a schema and nothing else is,
the handler gets at the position of a name the text that the client has put into the path for it, if
this is where the server reads the name, and if every colon that stands alone in the route is still
one.
-/
theorem valueFromPath?_of_feeds {base : Url} {p : Placed} {given : List Json} {r : Prepared}
    (hinputs : p.operation.inputs = { url := some (.flag true) })
    (h : (ofPlaced base p).prepare given = .ok r) :
    ∃ slots, p.filledSlots given = .ok slots ∧
      (ofPlaced base p).segments given = .ok (slots.map Slot.text) ∧
      ((∀ slot ∈ slots, slot.text ≠ []) → p.KeepsColons slots →
        ∀ (name : String) (position j : Nat), p.Feeds name position j → p.ReadsFrom name j →
          ∃ value, given[p.operation.target.clientPosition position]? = some value ∧
            slots[j]? = some (.filled value.plainText) ∧
            ∀ registry context,
              p.valueFromPath? registry context (slots.map (Slot.sentAs base.scheme)) position =
                some (.string (String.ofList value.plainText))) := by
  obtain ⟨-, -, -, -, texts, -, htexts, -⟩ := prepare_ok h
  obtain ⟨slots, hslots, rfl⟩ := segments_ofPlaced hinputs htexts
  refine ⟨slots, hslots, htexts, fun hne hcolon name position j hfeeds hreads => ?_⟩
  obtain ⟨value, hvalue, hfilled⟩ := Slot.fillAll_of_paired hslots hfeeds.paired
  refine ⟨value, hvalue, hfilled, fun registry context => ?_⟩
  obtain ⟨captured, hcaptured⟩ := Placed.exists_capture?_sentAs base.scheme hslots hne hcolon
  have hpart : (pathSegments (String.ofList
      ((slots.map (Slot.sentAs base.scheme)).flatMap ('/' :: ·))))[j]? =
      some (Url.encode (Url.addedSegmentSet base.scheme) value.plainText) := by
    rw [Placed.pathSegments_sentAs base.scheme hslots hne, List.getElem?_map, hfilled]
    rfl
  have hget := Template.get?_capture?_of_last hcaptured hreads.ne_empty hreads.spelled hreads.last
    hpart
  rw [Url.decode_encode (Url.addedSegmentSet_of_segmentSet base.scheme (by decide))] at hget
  have htruthy : (Json.string (String.ofList value.plainText)).isTruthy = true := by
    have htext : value.plainText ≠ [] := hne _ (List.mem_of_getElem? hfilled)
    simpa [Json.isTruthy] using htext
  have hgather : Entries.get? (p.operation.inputs.gather registry captured (.object []) .null {})
      name = some (.string (String.ofList value.plainText)) := by
    rw [hinputs, Inputs.get?_gather_of_path ((Template.distinct_capture? hcaptured).gives hget)
      htruthy ⟨by simp [Entries.keys], by simp [Entries.keys, Json.members]⟩
      ⟨by simp [Entries.keys], by simp [Entries.keys, Json.members]⟩
      (Headers.leavesOut_toMembers (by simp [Entries.keys]) (by simp))]
    exact hget
  rw [Placed.valueFromPath?, hcaptured, Option.bind_some]
  exact Arguments.value?_bind hfeeds.named hfeeds.ne_context hreads.apart hgather

end Action

namespace Placed

/-- `GET` of a path with path parameters and nothing else. -/
def ofTokens (path : String) (mapping : List String) : Placed where
  path
  verb := .get
  operation :=
    { target := { action := "show", mapping := some mapping }
      inputs := { url := some (.flag true) } }

/-- Two users, the second one first and the request itself between them. -/
theorem ofTokens_two_users :
    ∃ r slots, (Action.ofPlaced .localhost (ofTokens "users/:a/and/:b" ["b", "ctx", "a"])).prepare
        [.string "x y", .string "z"] = .ok r ∧
      (ofTokens "users/:a/and/:b" ["b", "ctx", "a"]).filledSlots [.string "x y", .string "z"] =
        .ok slots ∧
      ∀ registry context,
        (ofTokens "users/:a/and/:b" ["b", "ctx", "a"]).valueFromPath? registry context
          (slots.map (Slot.sentAs "http")) 2 = some (.string "z") := by
  obtain ⟨r, hr⟩ : ∃ r, (Action.ofPlaced .localhost
      (ofTokens "users/:a/and/:b" ["b", "ctx", "a"])).prepare [.string "x y", .string "z"] =
      .ok r := ⟨_, rfl⟩
  obtain ⟨slots, hslots, -, hagree⟩ := Action.valueFromPath?_of_feeds rfl hr
  refine ⟨r, slots, hr, hslots, ?_⟩
  obtain rfl : [.declared ['u', 's', 'e', 'r', 's'], .filled ['z'], .declared ['a', 'n', 'd'],
      .filled ['x', ' ', 'y']] = slots := Except.ok.inj hslots
  have hlength : (pathSegments (ofTokens "users/:a/and/:b" ["b", "ctx", "a"]).path).length = 4 :=
    rfl
  have hfeeds : (ofTokens "users/:a/and/:b" ["b", "ctx", "a"]).Feeds "a" 2 1 :=
    ⟨rfl, by decide, "a", .declared [':', 'a'], rfl, rfl, by decide, by decide⟩
  have hreads : (ofTokens "users/:a/and/:b" ["b", "ctx", "a"]).ReadsFrom "a" 1 := by
    refine ⟨by decide, by decide, rfl, fun k hk heq => ?_⟩
    have hlt := (List.getElem?_eq_some_iff.1 heq).1
    rw [hlength] at hlt
    obtain rfl | rfl : k = 2 ∨ k = 3 := by omega
    · exact absurd heq (by decide)
    · exact absurd heq (by decide)
  have hcolons : (ofTokens "users/:a/and/:b" ["b", "ctx", "a"]).KeepsColons
      [.declared ['u', 's', 'e', 'r', 's'], .filled ['z'], .declared ['a', 'n', 'd'],
        .filled ['x', ' ', 'y']] := by
    intro j hj
    exact absurd (List.mem_of_getElem? hj) (by decide)
  obtain ⟨value, hvalue, -, hgets⟩ := hagree (by decide) hcolons "a" 2 1 hfeeds hreads
  obtain rfl : Json.string "z" = value := Option.some.inj hvalue
  exact hgets

/-- The handler gets every text that the client puts into the path, at the position of its name. -/
def Agrees (p : Placed) (scheme : String) (given : List Json) : Prop :=
  ∀ slots, p.filledSlots given = .ok slots → (∀ slot ∈ slots, slot.text ≠ []) →
    ∀ (name : String) (position j : Nat) (text : List Char), p.Feeds name position j →
      slots[j]? = some (.filled text) → ∀ registry context,
        p.valueFromPath? registry context (slots.map (Slot.sentAs scheme)) position =
          some (.string (String.ofList text))

/-- A request of which nothing is known. -/
def emptyContext : Context where
  method := "GET"
  path := "/"
  pathParameters := []
  query := .null
  body := .null
  headers := {}

/-- A name that asks for a part of the request, a name that stands twice, one in another letter case
and the empty name are accepted by the client and lost by the server. -/
theorem ofTokens_not_agrees :
    ((∃ r, (Action.ofPlaced .localhost (ofTokens "x/:ctx.id" ["ctx.id"])).prepare
        [.string "42"] = .ok r) ∧
      ¬ (ofTokens "x/:ctx.id" ["ctx.id"]).Agrees "http" [.string "42"]) ∧
    ((∃ r, (Action.ofPlaced .localhost (ofTokens ":id/:id" ["id", "id"])).prepare
        [.string "1", .string "2"] = .ok r) ∧
      ¬ (ofTokens ":id/:id" ["id", "id"]).Agrees "http" [.string "1", .string "2"]) ∧
    ((∃ r, (Action.ofPlaced .localhost (ofTokens ":ID" ["id"])).prepare [.string "42"] = .ok r) ∧
      ¬ (ofTokens ":ID" ["id"]).Agrees "http" [.string "42"]) ∧
    ((∃ r, (Action.ofPlaced .localhost (ofTokens ":" [""])).prepare [.string "42"] = .ok r) ∧
      ¬ (ofTokens ":" [""]).Agrees "http" [.string "42"]) := by
  refine ⟨⟨⟨_, rfl⟩, fun h => ?_⟩, ⟨⟨_, rfl⟩, fun h => ?_⟩, ⟨⟨_, rfl⟩, fun h => ?_⟩,
    ⟨⟨_, rfl⟩, fun h => ?_⟩⟩
  · have hvalue := h _ rfl (by decide) "ctx.id" 0 1 ['4', '2']
      ⟨rfl, by decide, "ctx.id", _, rfl, rfl, by decide, by decide⟩ rfl {} emptyContext
    injection hvalue with hvalue
    injection hvalue
  · have hvalue := h _ rfl (by decide) "id" 0 0 ['1']
      ⟨rfl, by decide, "id", _, rfl, rfl, by decide, by decide⟩ rfl {} emptyContext
    injection hvalue with hvalue
    injection hvalue with hvalue
    exact absurd hvalue (by decide)
  · have hvalue := h _ rfl (by decide) "id" 0 0 ['4', '2']
      ⟨rfl, by decide, "id", _, rfl, rfl, by decide, by decide⟩ rfl {} emptyContext
    injection hvalue with hvalue
    injection hvalue
  · have hvalue := h _ rfl (by decide) "" 0 0 ['4', '2']
      ⟨rfl, by decide, "", _, rfl, rfl, by decide, by decide⟩ rfl {} emptyContext
    injection hvalue

end Placed

end Switchboard
