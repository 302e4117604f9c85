import Switchboard.Proofs.Handler.Precedence
import Switchboard.Proofs.Handler.Resolution
import Switchboard.Proofs.Http.Headers
import Switchboard.Proofs.Text.LowerCase

/-!
# The views of a header

A header of a request can be read from the context, from the JSON form of the request, which is
where arguments look it up, and among the parameters.  Of several values of one name the JSON form
keeps the last, and both others take the first, so all views show the first value exactly if it is
the last one too (`Context.showsFirst_iff`).

A schema may give a header another key among the parameters, but never the key of another header:
names in lower case that are the same but for the letters `A` to `Z` are the same
(`Headers.parameterName_lowerCase_inj`).
-/

namespace Switchboard

/-- The values of a header in a list as it is sent, in any letter case of its name. -/
def valuesSent (pairs : List (String × String)) (name : String) : List String :=
  (pairs.filter fun pair => Text.lowerCase pair.1 == Text.lowerCase name).map (·.2)

namespace Headers

variable {pairs : List (String × String)} {schema : Schema} {name other : String}

theorem getAll_ofList (pairs : List (String × String)) (name : String) :
    (ofList pairs).getAll name = valuesSent pairs name := by
  rw [getAll, ofList, valuesSent, List.filter_map, List.map_map]
  rfl

theorem get?_eq_head? (h : Headers) (name : String) : h.get? name = (h.getAll name).head? := by
  rw [get?, getAll, List.head?_map, List.head?_filter]

theorem eqIgnoringAsciiCase_parameterName (schema : Schema) (name : String) :
    Text.eqIgnoringAsciiCase (parameterName schema name) name = true := by
  unfold parameterName
  cases hfind : (Entries.keys schema).find? fun d => Text.eqIgnoringAsciiCase d name with
  | none => exact Text.eqIgnoringAsciiCase_self name
  | some declared => simpa using List.find?_some hfind

/-- Two headers count under one name only if they have the same name. -/
theorem parameterName_lowerCase_inj :
    parameterName schema (Text.lowerCase name) = parameterName schema (Text.lowerCase other) ↔
      Text.lowerCase name = Text.lowerCase other := by
  refine ⟨fun hkey => ?_, congrArg _⟩
  have hname := eqIgnoringAsciiCase_parameterName schema (Text.lowerCase name)
  have hother := eqIgnoringAsciiCase_parameterName schema (Text.lowerCase other)
  rw [← hkey, Text.eqIgnoringAsciiCase_congr hname] at hother
  exact Text.eqIgnoringAsciiCase_lowerCase_iff.1 hother

/-- Among the parameters a header has its first value. -/
theorem get?_toMembers_ofList (pairs : List (String × String)) (schema : Schema) (name : String) :
    Entries.get? ((ofList pairs).toMembers schema) (parameterName schema (Text.lowerCase name)) =
      (valuesSent pairs name).head?.map Json.string := by
  rw [get?_toMembers_eq_find?, valuesSent, List.head?_map, List.head?_filter, ofList,
    List.find?_map, Option.map_map, Option.map_map]
  congr 1
  refine congrArg (List.find? · pairs) (funext fun pair => ?_)
  rw [Bool.eq_iff_iff, Function.comp_apply, beq_iff_eq, beq_iff_eq, parameterName_lowerCase_inj]

end Headers

namespace Context

variable {c : Context} {pairs : List (String × String)} {schema : Schema} {name value : String}

/-- The headers in the JSON form of the request. -/
def headerMembers (c : Context) : Entries Json :=
  ((Entries.get? c.toJson.members "headers").getD .null).members

theorem get?_headerMembers (c : Context) (key : String) :
    Entries.get? c.headerMembers key =
      ((c.headers.entries.filter fun entry => entry.1 == key).map (·.2)).getLast?.map
        Json.string := by
  have hmembers : c.headerMembers = Entries.ofPairs
      (c.headers.entries.map fun entry => (entry.1, Json.string entry.2)) := rfl
  rw [hmembers, Entries.ofPairs, Entries.get?_merge, Entries.get?_nil, Option.or_none,
    Entries.get?_eq_find?, ← List.head?_filter, List.filter_reverse, List.head?_reverse,
    List.filter_map, List.getLast?_map, List.getLast?_map, Option.map_map, Option.map_map]
  rfl

/-- In the JSON form of the request a header has its last value. -/
theorem get?_headerMembers_lowerCase (c : Context) (name : String) :
    Entries.get? c.headerMembers (Text.lowerCase name) =
      (c.headers.getAll name).getLast?.map Json.string :=
  get?_headerMembers c (Text.lowerCase name)

/-- Below a header there is nothing. -/
theorem descend?_headerMembers_cons_cons (c : Context) (piece next : List Char)
    (rest : List (List Char)) :
    (Json.object c.headerMembers).descend? (piece :: next :: rest) = none := by
  rw [Json.descend?, Json.child?, get?_headerMembers]
  cases ((c.headers.entries.filter fun entry => entry.1 == String.ofList piece).map
      (·.2)).getLast? with
  | none => rfl
  | some value => rfl

/-- A name in the JSON form of the headers is cut at its dots, so only a name without one leads to a
header. -/
theorem descend?_headerMembers (c : Context) (key : String) :
    (Json.object c.headerMembers).descend? (Text.cut '.' key.toList) =
      if '.' ∈ key.toList then none else Entries.get? c.headerMembers key := by
  split
  · rename_i hdot
    obtain ⟨before, after, hkey⟩ := List.append_of_mem hdot
    obtain ⟨piece, pieces, hpieces⟩ := List.exists_cons_of_ne_nil (Text.cut_ne_nil '.' before)
    obtain ⟨next, rest, hrest⟩ := List.exists_cons_of_ne_nil
      (show pieces ++ Text.cut '.' after ≠ [] by simp [Text.cut_ne_nil])
    rw [hkey, Text.cut_append_cons, hpieces, List.cons_append, hrest,
      descend?_headerMembers_cons_cons]
  · rename_i hdot
    rw [Text.cut_of_notMem hdot, Json.descend?, Json.child?, String.ofList_toList]
    cases Entries.get? c.headerMembers key with
    | none => rfl
    | some value => rfl

/-- The header that a name of an argument leads to; a name with a dot leads nowhere. -/
theorem resolve_header (c : Context) (parameters : Entries Json) (key : String) :
    Arguments.resolve parameters c ("ctx.headers." ++ key) = .value
      (if '.' ∈ key.toList then .null else (Entries.get? c.headerMembers key).getD .null) := by
  have hname : "ctx.headers." ++ key = Arguments.partName ("headers." ++ key) := by
    apply String.toList_injective
    rw [Arguments.toList_partName, String.toList_append, String.toList_append]
    rfl
  have hcut : Text.cut '.' ("headers." ++ key).toList =
      "headers".toList :: Text.cut '.' key.toList := by
    rw [String.toList_append]
    exact Text.cut_append_cons '.' "headers".toList key.toList
  have hheaders : c.toJson.descend? ("headers".toList :: Text.cut '.' key.toList) =
      (Json.object c.headerMembers).descend? (Text.cut '.' key.toList) := rfl
  rw [hname, Arguments.resolve_part, hcut, hheaders, descend?_headerMembers]
  split
  · rfl
  · rfl

/-- Every view of a header shows this value. -/
structure Shows (c : Context) (schema : Schema) (name value : String) : Prop where
  header : c.header? name = some value
  member : Entries.get? c.headerMembers (Text.lowerCase name) = some (.string value)
  argument : '.' ∉ (Text.lowerCase name).toList → ∀ parameters,
    Arguments.resolve parameters c ("ctx.headers." ++ Text.lowerCase name) =
      .value (.string value)
  parameter : Entries.get? (c.headers.toMembers schema)
    (Headers.parameterName schema (Text.lowerCase name)) = some (.string value)

/-- Every view of a header shows the first value that is sent. -/
def ShowsFirst (c : Context) (schema : Schema) (pairs : List (String × String))
    (name : String) : Prop :=
  ∃ value, (valuesSent pairs name).head? = some value ∧ c.Shows schema name value

theorem header?_eq_head? (hsent : c.headers = .ofList pairs) :
    c.header? name = (valuesSent pairs name).head? := by
  rw [header?, hsent, Headers.get?_eq_head?, Headers.getAll_ofList]

theorem member_eq_getLast? (hsent : c.headers = .ofList pairs) :
    Entries.get? c.headerMembers (Text.lowerCase name) =
      (valuesSent pairs name).getLast?.map Json.string := by
  rw [get?_headerMembers_lowerCase, hsent, Headers.getAll_ofList]

/-- The views show the value that is sent first and last. -/
theorem shows_iff (hsent : c.headers = .ofList pairs) :
    c.Shows schema name value ↔
      (valuesSent pairs name).head? = some value ∧
        (valuesSent pairs name).getLast? = some value := by
  constructor
  · rintro ⟨hheader, hmember, -, -⟩
    rw [header?_eq_head? hsent] at hheader
    rw [member_eq_getLast? hsent] at hmember
    refine ⟨hheader, ?_⟩
    obtain ⟨last, hlast, heq⟩ := Option.map_eq_some_iff.1 hmember
    rw [hlast, Json.string.inj heq]
  · rintro ⟨hfirst, hlast⟩
    have hmember : Entries.get? c.headerMembers (Text.lowerCase name) = some (.string value) := by
      rw [member_eq_getLast? hsent, hlast, Option.map_some]
    refine ⟨by rw [header?_eq_head? hsent, hfirst], hmember, fun hdot parameters => ?_, ?_⟩
    · rw [resolve_header, if_neg hdot, hmember, Option.getD_some]
    · rw [hsent, Headers.get?_toMembers_ofList, hfirst, Option.map_some]

/--
**Agreement of the views**: all views of a header that is sent show its first value exactly if this
is also its last one, whatever is declared.
-/
theorem showsFirst_iff (hsent : c.headers = .ofList pairs) (hname : name ∈ pairs.map (·.1))
    (schema : Schema) :
    c.ShowsFirst schema pairs name ↔
      (valuesSent pairs name).getLast? = (valuesSent pairs name).head? := by
  obtain ⟨value, hfirst⟩ : ∃ value, (valuesSent pairs name).head? = some value := by
    rw [← Option.isSome_iff_exists, List.isSome_head?]
    obtain ⟨pair, hpair, rfl⟩ := List.mem_map.1 hname
    have hmem : pair.2 ∈ valuesSent pairs pair.1 :=
      List.mem_map_of_mem (List.mem_filter.2 ⟨hpair, beq_self_eq_true _⟩)
    exact List.ne_nil_of_mem hmem
  constructor
  · rintro ⟨shown, hshown, hshows⟩
    rw [hshown, ((shows_iff hsent).1 hshows).2]
  · intro hlast
    rw [hfirst] at hlast
    exact ⟨value, hfirst, (shows_iff hsent).2 ⟨hfirst, hlast⟩⟩

/-- A request with these headers. -/
def ofHeaders (pairs : List (String × String)) : Context where
  method := "GET"
  path := "/"
  pathParameters := []
  query := .null
  body := .null
  headers := .ofList pairs

/-- A header that is sent twice with one value and is declared in a third spelling. -/
theorem showsFirst_tenant :
    (ofHeaders [("X-Tenant", "a"), ("Accept", "*/*"), ("x-tenant", "a")]).ShowsFirst
      [("X-TENANT", {})] [("X-Tenant", "a"), ("Accept", "*/*"), ("x-tenant", "a")] "X-Tenant" :=
  (showsFirst_iff rfl (by decide) _).2 (by decide)

/-- With two values the context says the first and an argument the last. -/
theorem tenant_not_showsFirst :
    (ofHeaders [("X-Tenant", "a"), ("x-tenant", "b")]).header? "X-Tenant" = some "a" ∧
    Arguments.resolve [] (ofHeaders [("X-Tenant", "a"), ("x-tenant", "b")])
      "ctx.headers.x-tenant" = .value (.string "b") ∧
    ¬ (ofHeaders [("X-Tenant", "a"), ("x-tenant", "b")]).ShowsFirst []
      [("X-Tenant", "a"), ("x-tenant", "b")] "X-Tenant" := by
  refine ⟨by decide, rfl, ?_⟩
  rintro ⟨value, -, hshows⟩
  obtain ⟨hfirst, hlast⟩ := (shows_iff rfl).1 hshows
  exact absurd (hfirst.trans hlast.symm) (by decide)

end Context

end Switchboard
