import Switchboard.Handler.Arguments
import Switchboard.Handler.Parameters
import Switchboard.Proofs.Schema.Shape

/-!
# Where an argument comes from

The parts of a request are merged over each other, and the mapping looks its
names up in the result.  A name gets its value from one part when the parts
merged over it know nothing of the name: `get?_gather_of_path`,
`get?_gather_of_query` and `get?_gather_of_body` are the three cases.  A name
that is in no part has its default (`get?_gather_of_query_absent`,
`get?_gather_of_body_absent`).  The query is shaped together with the parameters
in the path, so there a parameter that the query does not declare must count as
given, or it stays.

What the merge holds under a name reaches the handler at the positions of that
name, unless the name asks for the request itself or a part of it
(`value?_bind`).
-/

namespace Switchboard

namespace Headers

/-- A name that is not declared and under which no header counts is left out. -/
theorem leavesOut_toMembers {h : Headers} {schema : Schema} {name : String}
    (hundeclared : name ∉ Entries.keys schema)
    (habsent : ∀ entry ∈ h.entries, parameterName schema entry.1 ≠ name) :
    Schema.LeavesOut schema (h.toMembers schema) name := by
  refine ⟨hundeclared, ?_⟩
  -- the members met so far leave the name out, and one more header keeps it so
  refine List.foldlRecOn (motive := fun members => name ∉ Entries.keys members) h.entries _
    (by simp [Entries.keys]) ?_
  intro members hmembers entry hentry
  dsimp only
  split
  · exact hmembers
  · rw [← Entries.get?_eq_none_iff, Entries.get?_set, if_neg (habsent entry hentry),
      Entries.get?_eq_none_iff]
    exact hmembers

end Headers

namespace Inputs

variable {inputs : Inputs} {registry : Registry} {path : Entries Json} {query body : Json}
  {headers : Headers} {name : String}

/-- A parameter in the path. -/
theorem get?_gather_of_path {value : Json} (hpath : Entries.Gives path name value)
    (htruthy : value.isTruthy = true)
    (hquery : Schema.LeavesOut (inputs.query.getD []) query.members name)
    (hbody : Schema.LeavesOut (inputs.body.getD []) body.members name)
    (hheaders : Schema.LeavesOut (inputs.header.getD [])
      (headers.toMembers (inputs.header.getD [])) name) :
    Entries.get? (inputs.gather registry path query body headers) name =
      Entries.get? (inputs.shapePath registry path) name := by
  have hdropped : name ∉ Entries.keys
      (Schema.shape registry (inputs.query.getD []) (Entries.merge query.members path)) := by
    refine Schema.notMem_keys_shape hquery.undeclared fun v hv => ?_
    rcases Entries.mem_merge hv with hmem | hmem
    · exact absurd (Entries.mem_keys_of_mem hmem) hquery.absent
    · rw [hpath.2 v hmem]
      exact htruthy
  unfold gather
  rw [Entries.get?_merge_of_notMem (hheaders.notMem_keys_shape registry),
    Entries.get?_merge_of_notMem (hbody.notMem_keys_shape registry),
    Entries.get?_merge_of_notMem hdropped]

/-- What the shaped query has under a name, if no part over it knows the name. -/
theorem get?_gather_of_gives_query {value : Json}
    (hquery : Entries.Gives (Schema.shape registry (inputs.query.getD [])
      (Entries.merge query.members path)) name value)
    (hbody : Schema.LeavesOut (inputs.body.getD []) body.members name)
    (hheaders : Schema.LeavesOut (inputs.header.getD [])
      (headers.toMembers (inputs.header.getD [])) name) :
    Entries.get? (inputs.gather registry path query body headers) name = some value := by
  unfold gather
  rw [Entries.get?_merge_of_notMem (hheaders.notMem_keys_shape registry),
    Entries.get?_merge_of_notMem (hbody.notMem_keys_shape registry), hquery.get?_merge]

/-- What the shaped body has under a name, if no header knows the name. -/
theorem get?_gather_of_gives_body {value : Json}
    (hbody : Entries.Gives (Schema.shape registry (inputs.body.getD []) body.members) name value)
    (hheaders : Schema.LeavesOut (inputs.header.getD [])
      (headers.toMembers (inputs.header.getD [])) name) :
    Entries.get? (inputs.gather registry path query body headers) name = some value := by
  unfold gather
  rw [Entries.get?_merge_of_notMem (hheaders.notMem_keys_shape registry), hbody.get?_merge]

/-- A parameter in the query. -/
theorem get?_gather_of_query {f : Field}
    (hdeclared : Entries.get? (inputs.query.getD []) name = some f)
    (hpath : name ∉ Entries.keys path) (hdistinct : Entries.Distinct query.members) {value : Json}
    (hvalue : Entries.get? query.members name = some value)
    (hbody : Schema.LeavesOut (inputs.body.getD []) body.members name)
    (hheaders : Schema.LeavesOut (inputs.header.getD [])
      (headers.toMembers (inputs.header.getD [])) name) :
    Entries.get? (inputs.gather registry path query body headers) name =
      some (shapeValue registry value f) := by
  have hmerged : Entries.Gives (Entries.merge query.members path) name value := by
    refine (hdistinct.merge path).gives ?_
    rw [Entries.get?_merge_of_notMem hpath, hvalue]
  exact get?_gather_of_gives_query (Schema.gives_shape hdeclared hmerged) hbody hheaders

/-- A parameter of the query that is nowhere has its default. -/
theorem get?_gather_of_query_absent {f : Field}
    (hdeclared : Entries.Gives (inputs.query.getD []) name f) {value : Json}
    (hfallback : f.fallback = some value) (hpath : name ∉ Entries.keys path)
    (hquery : name ∉ Entries.keys query.members)
    (hbody : Schema.LeavesOut (inputs.body.getD []) body.members name)
    (hheaders : Schema.LeavesOut (inputs.header.getD [])
      (headers.toMembers (inputs.header.getD [])) name) :
    Entries.get? (inputs.gather registry path query body headers) name = some value := by
  have habsent : name ∉ Entries.keys (Entries.merge query.members path) := by
    rw [← Entries.get?_eq_none_iff, Entries.get?_merge_of_notMem hpath, Entries.get?_eq_none_iff]
    exact hquery
  exact get?_gather_of_gives_query (Schema.gives_shape_of_absent hdeclared habsent hfallback)
    hbody hheaders

/-- A parameter in the body. -/
theorem get?_gather_of_body {f : Field}
    (hdeclared : Entries.get? (inputs.body.getD []) name = some f)
    {value : Json} (hvalue : Entries.Gives body.members name value)
    (hheaders : Schema.LeavesOut (inputs.header.getD [])
      (headers.toMembers (inputs.header.getD [])) name) :
    Entries.get? (inputs.gather registry path query body headers) name =
      some (shapeValue registry value f) :=
  get?_gather_of_gives_body (Schema.gives_shape hdeclared hvalue) hheaders

/-- A parameter of the body that is not there has its default. -/
theorem get?_gather_of_body_absent {f : Field}
    (hdeclared : Entries.Gives (inputs.body.getD []) name f) {value : Json}
    (hfallback : f.fallback = some value) (hbody : name ∉ Entries.keys body.members)
    (hheaders : Schema.LeavesOut (inputs.header.getD [])
      (headers.toMembers (inputs.header.getD [])) name) :
    Entries.get? (inputs.gather registry path query body headers) name = some value :=
  get?_gather_of_gives_body (Schema.gives_shape_of_absent hdeclared hbody hfallback) hheaders

end Inputs

/-! ## Positions -/

namespace Target

/-- The position among the arguments of a client that a position among those of the handler has,
where the request itself does not count. -/
def clientPosition (t : Target) (position : Nat) : Nat :=
  ((t.serverMapping.take position).filter (· != contextName)).length

theorem clientMapping_clientPosition {t : Target} {position : Nat} {name : String}
    (h : t.serverMapping[position]? = some name) (hname : name ≠ contextName) :
    t.clientMapping[t.clientPosition position]? = some name := by
  unfold clientMapping clientPosition
  obtain ⟨hlt, hget⟩ := List.getElem?_eq_some_iff.1 h
  have hsplit : t.serverMapping =
      t.serverMapping.take position ++ name :: t.serverMapping.drop (position + 1) := by
    rw [← hget, List.getElem_cons_drop, List.take_append_drop]
  conv => lhs; lhs; rw [hsplit]
  rw [List.filter_append, List.filter_cons, if_pos (by simpa using hname),
    List.getElem?_append_right (Nat.le_refl _), Nat.sub_self]
  rfl

end Target

namespace Arguments

variable {mapping : List String} {parameters : Entries Json} {context : Context} {position : Nat}

/-- The request itself stands at its positions. -/
theorem argument?_bind_context (h : mapping[position]? = some contextName) :
    (bind mapping parameters context).argument? position = some .context := by
  simp [bind, argument?, h, resolve]

/-- A name without a dot asks for no part of the request. -/
theorem dropStart?_contextStart_of_undotted {name : String} (h : '.' ∉ name.toList) :
    Text.dropStart? contextStart name.toList = none := by
  cases hdrop : Text.dropStart? contextStart name.toList with
  | none => rfl
  | some rest =>
      rw [Text.dropStart?_eq_some_iff] at hdrop
      rw [hdrop] at h
      exact absurd h (by simp [contextStart])

/-- A name that asks for no part of the request has the value of its parameter. -/
theorem value?_bind {name : String} (h : mapping[position]? = some name)
    (hname : name ≠ contextName) (hstart : Text.dropStart? contextStart name.toList = none)
    {value : Json} (hvalue : Entries.get? parameters name = some value) :
    (bind mapping parameters context).value? position = some value := by
  have hresolve : resolve parameters context name = .value value := by
    simp [resolve, hname, hstart, lookup, hvalue]
  simp [bind, value?, h, hresolve]

end Arguments

end Switchboard
