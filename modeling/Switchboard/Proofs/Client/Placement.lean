import Switchboard.Proofs.Client.Prepare
import Switchboard.Proofs.Route.Capture
import Switchboard.Proofs.Schema.Shape

/-!
# Where a document places its arguments

The names of a mapping say nothing about where their arguments travel; that is
left to the path and to the declared parts of a request.  `Part` is the place of
one argument, `Placed.Holds` says that a name has this place and no other, and
`Placed.Unambiguous` that every name has one and that no two names or parameters
can be taken for each other.

In an unambiguous operation each name that is a parameter of the path is paired
with exactly this parameter (`paired_of_mem_tokens`).
-/

namespace Switchboard

/-- The place of an argument in a request, with the field that declares it. -/
inductive Part where
  /-- In the path; the field is there only if the path parameters have a schema. -/
  | path (field : Option Field)
  | query (field : Field)
  | body (field : Field)

/-- What the handler gets for an argument: in the path and in the query it travels as plain text. -/
def Part.received (registry : Registry) (value : Json) : Part → Json
  | path none => .string (String.ofList value.plainText)
  | path (some f) => shapeValue registry (.string (String.ofList value.plainText)) f
  | query f => shapeValue registry (.string (String.ofList value.plainText)) f
  | body f => shapeValue registry value f

namespace Placed

/-- The names of the path parameters. -/
def tokens (p : Placed) : List String := (Template.ofPath p.path).parameterNames

/-- The declared part of a request that holds the argument of a name, and no other part does. -/
inductive Holds (p : Placed) (name : String) : Part → Prop where
  | path (htoken : name ∈ p.tokens) (hurl : p.operation.inputs.url = some (.flag true))
      (hquery : name ∉ Entries.keys (p.operation.inputs.query.getD []))
      (hbody : name ∉ Entries.keys (p.operation.inputs.body.getD [])) : Holds p name (.path none)
  | pathField {schema : Schema} {f : Field} (htoken : name ∈ p.tokens)
      (hurl : p.operation.inputs.url = some (.schema schema))
      (hfield : Entries.get? schema name = some f)
      (hquery : name ∉ Entries.keys (p.operation.inputs.query.getD []))
      (hbody : name ∉ Entries.keys (p.operation.inputs.body.getD [])) :
      Holds p name (.path (some f))
  | query {f : Field} (htoken : name ∉ p.tokens)
      (hfield : Entries.get? (p.operation.inputs.query.getD []) name = some f)
      (hbody : name ∉ Entries.keys (p.operation.inputs.body.getD [])) : Holds p name (.query f)
  | body {f : Field} (htoken : name ∉ p.tokens)
      (hquery : name ∉ Entries.keys (p.operation.inputs.query.getD []))
      (hfield : Entries.get? (p.operation.inputs.body.getD []) name = some f)
      (hverb : p.verb.carriesBody = true) : Holds p name (.body f)

/-- No two names of the operation can be taken for each other, and each has its place. -/
structure Unambiguous (p : Placed) : Prop where
  ne_empty : ∀ name ∈ p.operation.target.clientMapping, name ≠ ""
  undotted : ∀ name ∈ p.operation.target.clientMapping, '.' ∉ name.toList
  apart : p.operation.target.clientMapping.Pairwise fun x y =>
    Text.eqIgnoringAsciiCase x y = false
  tokens_apart : p.tokens.Pairwise fun x y => Text.eqIgnoringAsciiCase x y = false
  held : ∀ name ∈ p.operation.target.clientMapping, ∃ part, p.Holds name part
  no_header : ∀ name ∈ p.operation.target.clientMapping,
    name ∉ Entries.keys (p.operation.inputs.header.getD [])

variable {p : Placed}

theorem Unambiguous.nodup (hp : p.Unambiguous) : p.operation.target.clientMapping.Nodup := by
  refine hp.apart.imp fun hxy => ?_
  rintro rfl
  rw [Text.eqIgnoringAsciiCase_self] at hxy
  exact absurd hxy (by decide)

/-- Two parameters at different places are not spelled alike. -/
theorem Unambiguous.tokens_apart_of_lt (hp : p.Unambiguous) {j k : Nat} {x y : String}
    (hj : (pathSegments p.path)[j]? = some (':' :: x.toList)) (hx : x ≠ "")
    (hk : (pathSegments p.path)[k]? = some (':' :: y.toList)) (hy : y ≠ "") (hlt : j < k) :
    Text.eqIgnoringAsciiCase x y = false := by
  have hpairs := hp.tokens_apart
  unfold tokens Template.parameterNames Template.ofPath at hpairs
  rw [List.pairwise_filterMap, List.pairwise_map, List.pairwise_iff_getElem] at hpairs
  obtain ⟨hjlt, hjget⟩ := List.getElem?_eq_some_iff.1 hj
  obtain ⟨hklt, hkget⟩ := List.getElem?_eq_some_iff.1 hk
  have hname : ∀ {name : String}, name ≠ "" →
      (Segment.ofText (':' :: name.toList)).name? = some name := by
    intro name hne
    rw [Segment.ofText_eq_parameter_iff.2 ⟨rfl, hne⟩]
    rfl
  exact hpairs j k hjlt hklt hlt x (by rw [hjget, hname hx]) y (by rw [hkget, hname hy])

/-- Each parameter stands at one place only. -/
theorem Unambiguous.place_unique (hp : p.Unambiguous) {j k : Nat} {name : String}
    (hname : name ≠ "") (hj : (pathSegments p.path)[j]? = some (':' :: name.toList)) (hlt : j < k) :
    (pathSegments p.path)[k]? ≠ some (':' :: name.toList) := by
  intro hk
  have hapart := hp.tokens_apart_of_lt hj hname hk hname hlt
  rw [Text.eqIgnoringAsciiCase_self] at hapart
  exact absurd hapart (by decide)

/-- A segment that waits for a name is a parameter that is spelled like it but for letter case. -/
theorem token_of_awaits {name : String} (hname : name ≠ "") {j : Nat} {slot : Slot}
    (hslot : p.slots[j]? = some slot) (hawaits : slot.awaits name = true) :
    ∃ token, token ≠ "" ∧ (pathSegments p.path)[j]? = some (':' :: token.toList) ∧
      Text.eqIgnoringAsciiCase name token = true := by
  obtain ⟨token, htoken, rfl, hsame⟩ := Slot.exists_token_of_awaits hname hawaits
  rw [slots, List.getElem?_map] at hslot
  obtain ⟨text, htext, heq⟩ := Option.map_eq_some_iff.1 hslot
  obtain rfl := Slot.declared.inj heq
  exact ⟨token, htoken, htext, hsame⟩

/-- The argument of a name that is a parameter of the path goes into this parameter. -/
theorem Unambiguous.paired_of_mem_tokens (hp : p.Unambiguous) {i : Nat} {name : String}
    (hname : p.operation.target.clientMapping[i]? = some name) (htoken : name ∈ p.tokens) :
    ∃ j : Nat, (pathSegments p.path)[j]? = some (':' :: name.toList) ∧
      Slot.Paired p.operation.target.clientMapping p.slots i j := by
  obtain ⟨hmem, hne⟩ := Template.mem_parameterNames_iff.1 htoken
  obtain ⟨j, hj⟩ := List.getElem?_of_mem hmem
  have hslot : p.slots[j]? = some (.declared (':' :: name.toList)) := by
    rw [slots, List.getElem?_map, hj, Option.map_some]
  have hawaits : (Slot.declared (':' :: name.toList)).awaits name = true :=
    Slot.awaits_declared_iff.2 rfl
  -- neither an earlier name nor an earlier parameter is spelled like this one
  have hnames : (p.operation.target.clientMapping.take i).countP
      (Text.eqIgnoringAsciiCase name) = 0 := by
    rw [List.countP_eq_zero]
    intro other hother
    obtain ⟨k, hk, hget⟩ := List.mem_take_iff_getElem.1 hother
    obtain ⟨hlt, hgetName⟩ := List.getElem?_eq_some_iff.1 hname
    have hapart := List.pairwise_iff_getElem.1 hp.apart k i (by omega) hlt (by omega)
    rw [hget, hgetName] at hapart
    rw [Text.eqIgnoringAsciiCase_comm, hapart]
    decide
  have hslots : (p.slots.take j).countP (Slot.awaits name) = 0 := by
    rw [List.countP_eq_zero]
    intro slot hmemSlot hwaits
    obtain ⟨k, hk, hget⟩ := List.mem_take_iff_getElem.1 hmemSlot
    obtain ⟨token, htoken, hplace, hsame⟩ :=
      token_of_awaits hne (List.getElem?_eq_some_iff.2 ⟨by omega, hget⟩) hwaits
    have hapart := hp.tokens_apart_of_lt hplace htoken hj hne (by omega)
    rw [Text.eqIgnoringAsciiCase_comm, hsame] at hapart
    exact absurd hapart (by decide)
  exact ⟨j, hj, name, _, hname, hslot, hawaits, by rw [hnames, hslots]⟩

end Placed

end Switchboard
