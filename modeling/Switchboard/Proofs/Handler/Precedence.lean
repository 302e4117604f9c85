import Switchboard.Proofs.Handler.Gather

/-!
# What outranks the path

The parts of a request are merged over the parameters in the path, so a part
takes the place of such a parameter whenever it has the name after shaping.
Where the part does not declare the name, shaping lets only a value pass that
does not count as given (`override?`): a body may say `null`, and a header may be
empty.  The query never can, as it is shaped together with the path, whose
values come last there.

So the parameter is what the first of these overrides says, and without one it
is what the path and the schemas make of it (`get?_gather_of_mem_path`).
-/

namespace Switchboard

namespace Schema

variable {registry : Registry} {schema : Schema} {data : Entries Json} {name : String}

/-- What passes of a value that is not declared: only one that does not count as given. -/
def passUndeclared (value : Option Json) : Option Json := value.filter fun v => !v.isTruthy

/-- A part that does not declare the name, merged over others. -/
theorem get?_merge_shape_of_undeclared (hundeclared : name ∉ Entries.keys schema)
    (hdistinct : Entries.Distinct data) (below : Entries Json) :
    Entries.get? (Entries.merge below (shape registry schema data)) name =
      (passUndeclared (Entries.get? data name)).or (Entries.get? below name) := by
  cases hget : Entries.get? data name with
  | none =>
      have hout : LeavesOut schema data name := ⟨hundeclared, Entries.get?_eq_none_iff.1 hget⟩
      rw [Entries.get?_merge_of_notMem (hout.notMem_keys_shape registry)]
      rfl
  | some value =>
      have hgives := hdistinct.gives hget
      cases htruthy : value.isTruthy with
      | true =>
          have hdropped : name ∉ Entries.keys (shape registry schema data) :=
            notMem_keys_shape hundeclared fun other hother => by rw [hgives.2 other hother, htruthy]
          rw [Entries.get?_merge_of_notMem hdropped]
          simp [passUndeclared, Option.filter_some, htruthy]
      | false =>
          have hkept : shapeMember schema name value (shapeValue registry value) =
              some (name, value) := if_neg (by simp [htruthy])
          rw [(gives_shape_of_shapeMember hgives hkept).get?_merge]
          simp [passUndeclared, Option.filter_some, htruthy]

/-- A part in which the name counts as given, merged over others: the declaration alone decides
whether it is heard. -/
theorem get?_merge_shape_of_truthy {value : Json} (hgives : Entries.Gives data name value)
    (htruthy : value.isTruthy = true) (below : Entries Json) :
    Entries.get? (Entries.merge below (shape registry schema data)) name =
      ((Entries.get? schema name).map fun f => shapeValue registry value f).or
        (Entries.get? below name) := by
  cases hdeclared : Entries.get? schema name with
  | some f =>
      rw [(gives_shape hdeclared hgives).get?_merge]
      rfl
  | none =>
      have hdropped : name ∉ Entries.keys (shape registry schema data) :=
        notMem_keys_shape (Entries.get?_eq_none_iff.1 hdeclared) fun other hother => by
          rw [hgives.2 other hother, htruthy]
      rw [Entries.get?_merge_of_notMem hdropped]
      rfl

end Schema

namespace Headers

variable {schema : Schema} {name : String}

/-- No declared header has the name, in whatever letter case. -/
def Undeclared (schema : Schema) (name : String) : Prop :=
  ∀ declared ∈ Entries.keys schema, Text.eqIgnoringAsciiCase declared name = false

theorem Undeclared.notMem_keys (h : Undeclared schema name) : name ∉ Entries.keys schema := by
  intro hmem
  have hself := h name hmem
  rw [Text.eqIgnoringAsciiCase_self] at hself
  exact absurd hself (by decide)

/-- Only the header of that very name counts under a name that is not declared. -/
theorem Undeclared.parameterName_eq_iff (h : Undeclared schema name) (other : String) :
    parameterName schema other = name ↔ other = name := by
  unfold parameterName
  cases hfind : (Entries.keys schema).find? fun d => Text.eqIgnoringAsciiCase d other with
  | none => rfl
  | some declared =>
      have hmem := List.mem_of_find?_eq_some hfind
      have hsame := List.find?_some hfind
      constructor
      · intro heq
        exact absurd (heq ▸ hmem) h.notMem_keys
      · rintro rfl
        rw [h declared hmem] at hsame
        exact absurd hsame (by simp)

/-- Of the headers that count under one name the first is taken. -/
theorem get?_toMembers_eq_find? (h : Headers) (schema : Schema) (name : String) :
    Entries.get? (h.toMembers schema) name =
      (h.entries.find? fun entry => parameterName schema entry.1 == name).map
        fun entry => .string entry.2 := by
  -- what was met before stays, and of the rest the first counts
  have hrun : ∀ (entries : List (String × String)) (members : Entries Json),
      Entries.get? (entries.foldl (fun members entry =>
          if Entries.has members (parameterName schema entry.1) then members
          else Entries.set members (parameterName schema entry.1) (.string entry.2)) members) name =
        (Entries.get? members name).or
          ((entries.find? fun entry => parameterName schema entry.1 == name).map
            fun entry => .string entry.2) := by
    intro entries
    induction entries with
    | nil => simp
    | cons entry rest ih =>
        intro members
        rw [List.foldl_cons, ih]
        by_cases hkey : parameterName schema entry.1 = name
        · rw [hkey, List.find?_cons_of_pos (by simpa using hkey), Entries.has]
          cases hget : Entries.get? members name with
          | none => simp [Entries.get?_set]
          | some found => simp [hget]
        · rw [List.find?_cons_of_neg (by simpa using hkey)]
          split
          · rfl
          · rw [Entries.get?_set, if_neg hkey]
  exact hrun h.entries []

/-- Of the headers of one undeclared name the first is taken. -/
theorem get?_toMembers (h : Headers) (hundeclared : Undeclared schema name) :
    Entries.get? (h.toMembers schema) name =
      (Entries.get? h.entries name).map Json.string := by
  have hsame : (fun entry : String × String => parameterName schema entry.1 == name) =
      fun entry => entry.1 == name := by
    funext entry
    rw [Bool.eq_iff_iff, beq_iff_eq, beq_iff_eq, hundeclared.parameterName_eq_iff]
  rw [get?_toMembers_eq_find?, hsame, Entries.get?_eq_find?, Option.map_map]
  rfl

theorem distinct_toMembers (h : Headers) (schema : Schema) :
    Entries.Distinct (h.toMembers schema) := by
  refine List.foldlRecOn (motive := Entries.Distinct) h.entries _
    (by simp [Entries.Distinct, Entries.keys]) ?_
  intro members hmembers entry _
  dsimp only
  split
  · exact hmembers
  · exact hmembers.set _ _

end Headers

namespace Inputs

variable {inputs : Inputs} {path : Entries Json} {query body : Json} {name : String}

/-- What the rest of a request sets an undeclared name to: an empty header, or else a member of the
body that does not count as given. -/
def override? (body : Json) (headers : Headers) (name : String) : Option Json :=
  (Schema.passUndeclared ((Entries.get? headers.entries name).map Json.string)).or
    (Schema.passUndeclared (Entries.get? body.members name))

/-- Together with the query, a parameter in the path is shaped as it is without one. -/
theorem get?_merge_shape_query (registry : Registry) (hpath : name ∈ Entries.keys path)
    (htruthy : ∀ value, (name, value) ∈ path → value.isTruthy = true)
    (hquery : Entries.Distinct query.members) (schema : Schema) (below : Entries Json) :
    Entries.get? (Entries.merge below
        (schema.shape registry (Entries.merge query.members path))) name =
      Entries.get? (Entries.merge below (schema.shape registry (Entries.merge [] path))) name := by
  have hlast : (Entries.get? path.reverse name).isSome :=
    Entries.get?_isSome_iff.2 (by simpa [Entries.keys] using hpath)
  obtain ⟨value, hvalue⟩ := Option.isSome_iff_exists.1 hlast
  have hmem : (name, value) ∈ path := List.mem_reverse.1 (Entries.mem_of_get?_eq_some hvalue)
  -- the last value of the path stands alone, whatever it was merged over
  have hgives : ∀ {members : Entries Json}, Entries.Distinct members →
      Entries.Gives (Entries.merge members path) name value := by
    intro members hmembers
    refine (hmembers.merge path).gives ?_
    rw [Entries.get?_merge, hvalue]
    rfl
  have hnil : Entries.Distinct ([] : Entries Json) := List.nodup_nil
  rw [Schema.get?_merge_shape_of_truthy (hgives hquery) (htruthy value hmem),
    Schema.get?_merge_shape_of_truthy (hgives hnil) (htruthy value hmem)]

/--
**Precedence of the path**: a parameter in the path that neither the body nor the headers declare is
what their first override says, a header's before the body's; without one the path and the schemas
alone decide it.
-/
theorem get?_gather_of_mem_path (inputs : Inputs) (registry : Registry) {path : Entries Json}
    {query body : Json} {headers : Headers} {name : String} (hpath : name ∈ Entries.keys path)
    (htruthy : ∀ value, (name, value) ∈ path → value.isTruthy = true)
    (hbody : name ∉ Entries.keys (inputs.body.getD []))
    (hheaders : Headers.Undeclared (inputs.header.getD []) name)
    (hqueryDistinct : Entries.Distinct query.members)
    (hbodyDistinct : Entries.Distinct body.members) :
    Entries.get? (inputs.gather registry path query body headers) name =
      (override? body headers name).or
        (Entries.get? (inputs.gather registry path .null .null {}) name) := by
  have hnil : Entries.Distinct (Json.members .null) := List.nodup_nil
  unfold gather
  dsimp only
  rw [Schema.get?_merge_shape_of_undeclared hheaders.notMem_keys (Headers.distinct_toMembers _ _),
    Schema.get?_merge_shape_of_undeclared hheaders.notMem_keys (Headers.distinct_toMembers _ _),
    Schema.get?_merge_shape_of_undeclared hbody hbodyDistinct,
    Schema.get?_merge_shape_of_undeclared hbody hnil,
    get?_merge_shape_query registry hpath htruthy hqueryDistinct]
  rw [Headers.get?_toMembers headers hheaders, Headers.get?_toMembers {} hheaders, override?,
    Option.or_assoc]
  rfl

/-- The inputs of `GET items/:id`: the parameter in the path and nothing else. -/
def ofItem : Inputs := { url := some (.flag true) }

/-- The parameters in the path of `items/42`. -/
def item42 : Entries Json := [("id", .string "42")]

/-- The query, the body and a header say other things about `id`, and none of them is heard. -/
theorem get?_gather_item42 :
    ("id" ∈ Entries.keys item42 ∧ Headers.Undeclared (ofItem.header.getD []) "id") ∧
    Entries.get? (ofItem.gather {} item42 (.object [("id", .string "1")])
      (.object [("id", .ofInt 2), ("name", .null)]) (.ofList [("ID", "3")])) "id" =
        some (.string "42") := by
  have hmem : "id" ∈ Entries.keys item42 := by decide
  have htruthy : ∀ value, ("id", value) ∈ item42 → value.isTruthy = true := by
    intro value hvalue
    obtain ⟨-, rfl⟩ := Prod.mk.inj (List.mem_singleton.1 hvalue)
    decide
  have hundeclared : Headers.Undeclared (ofItem.header.getD []) "id" := by
    simp [Headers.Undeclared, ofItem, Entries.keys]
  refine ⟨⟨hmem, hundeclared⟩, ?_⟩
  rw [get?_gather_of_mem_path ofItem {} hmem htruthy (by decide) hundeclared
    (by simp [Json.members, Entries.Distinct, Entries.keys])
    (by simp [Json.members, Entries.Distinct, Entries.keys])]
  rfl

/-- A `null` in the body and an empty header take the place of a parameter in the path, although
neither is declared. -/
theorem item42_overridden :
    (Entries.keys (ofItem.body.getD []) = [] ∧ Entries.keys (ofItem.header.getD []) = []) ∧
    Entries.get? (ofItem.gather {} item42 .null .null {}) "id" = some (.string "42") ∧
    Entries.get? (ofItem.gather {} item42 .null (.object [("id", .null)]) {}) "id" =
      some .null ∧
    Entries.get? (ofItem.gather {} item42 .null .null (.ofList [("id", "")])) "id" =
      some (.string "") := by
  refine ⟨⟨rfl, rfl⟩, ?_, ?_, ?_⟩
  · rfl
  · rfl
  · rfl

end Inputs

end Switchboard
