import Switchboard.Handler.Arguments
import Switchboard.Proofs.Number.Digits
import Switchboard.Proofs.Text.Split

/-!
# Where the names of a mapping lead

A path into a value is a list of steps, each to a member of an object or to an item of an array.
Written with dots between them, the steps are a name, and looking the name up is going the steps:
what is found is what some reading of the segments leads to, or the member that has the whole name
(`lookup_eq_some_iff`).  A segment has several readings, but a step that is written without a dot in
it is read as itself, so its path leads where it says (`lookup_pathText`).

The names of a mapping are looked up one by one, those that start with `ctx.` in the request and all
others among the parameters.  The two never meet: the object in which the request is looked up has
one member, and no name that starts with `ctx.` is the name of that (`resolve_part`).
-/

namespace Switchboard

/-- A step into a value: to a member of an object, or to an item of an array. -/
inductive Access where
  | member (name : String)
  | item (index : Nat)
  deriving DecidableEq, Repr

namespace Access

/-- The part of a value that the step leads to. -/
def part? : Access → Json → Option Json
  | member name, .object members => Entries.get? members name
  | item index, .array items => items[index]?
  | _, _ => none

/-- The step as it is written. -/
def text : Access → List Char
  | member name => name.toList
  | item index => natText index

/-- The segment of a path can be read as the step. -/
def IsSpelled (a : Access) (segment : List Char) : Prop :=
  match a with
  | member name => name.toList = segment
  | item index => readIndex? segment = some index

/-- The steps with dots between them. -/
def pathText (steps : List Access) : String :=
  String.ofList (Text.join '.' (steps.map text))

theorem readIndex?_natText (index : Nat) : readIndex? (natText index) = some index := by
  cases htext : natText index with
  | nil => exact absurd htext (natText_ne_nil index)
  | cons c rest =>
      have hdigits : ∀ d ∈ c :: rest, d.isDigit = true := fun d hd =>
        isDigit_of_mem_natText (htext ▸ hd)
      have hplus : c ≠ '+' := by
        rintro rfl
        exact absurd (hdigits '+' List.mem_cons_self) (by decide)
      have hvalue : digitsValue (c :: rest) = index := htext ▸ digitsValue_natText index
      simpa [readIndex?, hplus, hvalue] using hdigits

theorem isSpelled_text (a : Access) : a.IsSpelled a.text := by
  cases a with
  | member name => rfl
  | item index => exact readIndex?_natText index

end Access

namespace Json

/-- The part of a value that the steps lead to, one after another. -/
def follow? : Json → List Access → Option Json
  | value, [] => some value
  | value, a :: steps => (a.part? value).bind fun part => part.follow? steps

/-- A segment leads where the steps lead as which it can be read. -/
theorem child?_eq_some_iff {value part : Json} {segment : List Char} :
    value.child? segment = some part ↔
      ∃ a : Access, a.IsSpelled segment ∧ a.part? value = some part := by
  cases value with
  | object members =>
      constructor
      · intro h
        exact ⟨.member (String.ofList segment), String.toList_ofList, h⟩
      · rintro ⟨a, hspelled, hpart⟩
        cases a with
        | member name =>
            obtain rfl : name.toList = segment := hspelled
            rwa [child?, String.ofList_toList]
        | item index => simp [Access.part?] at hpart
  | array items =>
      constructor
      · intro h
        obtain ⟨index, hindex, hitem⟩ := Option.bind_eq_some_iff.1 h
        exact ⟨.item index, hindex, hitem⟩
      · rintro ⟨a, hspelled, hpart⟩
        cases a with
        | member name => simp [Access.part?] at hpart
        | item index => exact Option.bind_eq_some_iff.2 ⟨index, hspelled, hpart⟩
  | null | bool | number | string =>
      simp only [child?, reduceCtorEq, false_iff, not_exists, not_and]
      intro a _
      cases a <;> simp [Access.part?]

/-- Segments lead where the steps lead as which they can be read. -/
theorem descend?_eq_some_iff {value part : Json} {segments : List (List Char)} :
    value.descend? segments = some part ↔
      ∃ steps, List.Forall₂ Access.IsSpelled steps segments ∧ value.follow? steps = some part := by
  induction segments generalizing value with
  | nil =>
      constructor
      · intro h
        exact ⟨[], List.Forall₂.nil, h⟩
      · rintro ⟨steps, hsteps, hfollow⟩
        cases hsteps
        exact hfollow
  | cons segment segments ih =>
      rw [descend?, Option.bind_eq_some_iff]
      constructor
      · rintro ⟨next, hnext, hrest⟩
        obtain ⟨a, hspelled, hpart⟩ := child?_eq_some_iff.1 hnext
        obtain ⟨steps, hsteps, hfollow⟩ := ih.1 hrest
        refine ⟨a :: steps, List.Forall₂.cons hspelled hsteps, ?_⟩
        rw [follow?, hpart, Option.bind_some, hfollow]
      · rintro ⟨steps, hsteps, hfollow⟩
        cases hsteps with
        | cons hspelled hsteps =>
            rw [follow?, Option.bind_eq_some_iff] at hfollow
            obtain ⟨next, hpart, hfollow⟩ := hfollow
            exact ⟨next, child?_eq_some_iff.2 ⟨_, hspelled, hpart⟩, ih.2 ⟨_, hsteps, hfollow⟩⟩

end Json

/-! ## Names as paths -/

section Names

variable {steps : List Access} {data : Entries Json} {name : String} {part : Json}

theorem forall₂_isSpelled_text (steps : List Access) :
    List.Forall₂ Access.IsSpelled steps (steps.map Access.text) := by
  induction steps with
  | nil => exact List.Forall₂.nil
  | cons a steps ih => exact List.Forall₂.cons a.isSpelled_text ih

theorem cut_pathText (hne : steps ≠ []) (hdots : ∀ a ∈ steps, '.' ∉ a.text) :
    Text.cut '.' (Access.pathText steps).toList = steps.map Access.text := by
  rw [Access.pathText, String.toList_ofList]
  refine Text.cut_join (by simpa using hne) fun piece hpiece => ?_
  obtain ⟨a, ha, rfl⟩ := List.mem_map.1 hpiece
  exact hdots a ha

theorem descend?_cut_pathText (hne : steps ≠ []) (hdots : ∀ a ∈ steps, '.' ∉ a.text) {value : Json}
    (h : value.follow? steps = some part) :
    value.descend? (Text.cut '.' (Access.pathText steps).toList) = some part := by
  rw [cut_pathText hne hdots]
  exact Json.descend?_eq_some_iff.2 ⟨steps, forall₂_isSpelled_text steps, h⟩

/-- A name leads to the member that has it, and without one where its segments lead. -/
theorem lookup_eq_some_iff :
    lookup data name = some part ↔
      Entries.get? data name = some part ∨
        Entries.get? data name = none ∧
          ∃ steps, List.Forall₂ Access.IsSpelled steps (Text.cut '.' name.toList) ∧
            (Json.object data).follow? steps = some part := by
  unfold lookup
  cases hmember : Entries.get? data name with
  | some value => simp
  | none => simp [Json.descend?_eq_some_iff]

/-- A path leads where its steps lead, unless a member has it for its name. -/
theorem lookup_pathText (hne : steps ≠ []) (hdots : ∀ a ∈ steps, '.' ∉ a.text)
    (h : (Json.object data).follow? steps = some part) :
    lookup data (Access.pathText steps) =
      some ((Entries.get? data (Access.pathText steps)).getD part) := by
  unfold lookup
  cases hmember : Entries.get? data (Access.pathText steps) with
  | some value => rfl
  | none => exact descend?_cut_pathText hne hdots h

end Names

/-! ## Arguments -/

namespace Arguments

/-- The name of a part of the request. -/
def partName (path : String) : String := contextName ++ "." ++ path

theorem toList_partName (path : String) : (partName path).toList = contextStart ++ path.toList := by
  simp [partName, contextStart]

theorem partName_ne_contextName (path : String) : partName path ≠ contextName := by
  intro heq
  have hlen := congrArg List.length (congrArg String.toList heq)
  rw [toList_partName, List.length_append, contextStart, List.length_append,
    List.length_singleton] at hlen
  omega

theorem isSome_dropStart?_contextStart_iff {name : String} :
    (Text.dropStart? contextStart name.toList).isSome = true ↔ ∃ path, name = partName path := by
  rw [Option.isSome_iff_exists]
  constructor
  · rintro ⟨rest, hrest⟩
    refine ⟨String.ofList rest, String.toList_inj.1 ?_⟩
    rw [toList_partName, String.toList_ofList, Text.dropStart?_eq_some_iff.1 hrest]
  · rintro ⟨path, rfl⟩
    exact ⟨path.toList, Text.dropStart?_eq_some_iff.2 (toList_partName path)⟩

/-- A part of the request is looked up in the request, whatever the parameters are. -/
theorem resolve_part (parameters : Entries Json) (context : Context) (path : String) :
    resolve parameters context (partName path) =
      .value ((context.toJson.descend? (Text.cut '.' path.toList)).getD .null) := by
  have hcut : Text.cut '.' (partName path).toList =
      contextName.toList :: Text.cut '.' path.toList := by
    rw [toList_partName, contextStart, List.append_assoc]
    exact Text.cut_append_cons '.' contextName.toList path.toList
  have hlookup : lookup [(contextName, context.toJson)] (partName path) =
      context.toJson.descend? (Text.cut '.' path.toList) := by
    rw [lookup, Entries.get?, if_neg (partName_ne_contextName path).symm, Entries.get?_nil, hcut]
    rfl
  rw [resolve, if_neg (partName_ne_contextName path),
    if_pos (isSome_dropStart?_contextStart_iff.2 ⟨path, rfl⟩), hlookup]

/-- Every other name is looked up among the parameters, whatever the request is. -/
theorem resolve_parameter {name : String} (hcontext : name ≠ contextName)
    (hpart : ∀ path, name ≠ partName path) (parameters : Entries Json) (context : Context) :
    resolve parameters context name = .value ((lookup parameters name).getD .null) := by
  have hstart : ¬ (Text.dropStart? contextStart name.toList).isSome = true := by
    rw [isSome_dropStart?_contextStart_iff]
    exact not_exists.2 hpart
  rw [resolve, if_neg hcontext, if_neg hstart]

/--
**Binding**: each name of a mapping has the argument at its position, which is the request for
`ctx`, a part of the request alone for a name that starts with `ctx.`, and for every other name a
part of the parameters alone; it is `null` where the name leads nowhere.  A path of steps without
dots leads where the steps lead, unless a member has it for its name.
-/
theorem bind_pointwise (mapping : List String) (parameters : Entries Json) (context : Context) :
    (bind mapping parameters context).names = mapping ∧
      (∀ position, (bind mapping parameters context).argument? position =
        mapping[position]?.map (resolve parameters context)) ∧
      resolve parameters context contextName = .context ∧
      (∀ path, resolve parameters context (partName path) =
        .value ((context.toJson.descend? (Text.cut '.' path.toList)).getD .null)) ∧
      (∀ name, name ≠ contextName → (∀ path, name ≠ partName path) →
        resolve parameters context name = .value ((lookup parameters name).getD .null)) ∧
      (∀ data name part, lookup data name = some part ↔
        Entries.get? data name = some part ∨
          Entries.get? data name = none ∧
            ∃ steps, List.Forall₂ Access.IsSpelled steps (Text.cut '.' name.toList) ∧
              (Json.object data).follow? steps = some part) ∧
      (∀ data steps part, steps ≠ [] → (∀ a ∈ steps, '.' ∉ a.text) →
        (Json.object data).follow? steps = some part →
          lookup data (Access.pathText steps) =
            some ((Entries.get? data (Access.pathText steps)).getD part)) ∧
      ∀ steps part, steps ≠ [] → (∀ a ∈ steps, '.' ∉ a.text) →
        context.toJson.follow? steps = some part →
          resolve parameters context (partName (Access.pathText steps)) = .value part := by
  refine ⟨rfl, fun position => List.getElem?_map .., if_pos rfl,
    resolve_part parameters context, ?_, ?_, ?_, ?_⟩
  · intro name hcontext hpart
    exact resolve_parameter hcontext hpart parameters context
  · intro data name part
    exact lookup_eq_some_iff
  · intro data steps part hne hdots hfollow
    exact lookup_pathText hne hdots hfollow
  · intro steps part hne hdots hfollow
    rw [resolve_part, descend?_cut_pathText hne hdots hfollow, Option.getD_some]

/-- `GET` of the second page. -/
def secondPage : Context where
  method := "GET"
  path := "/items"
  pathParameters := []
  query := .object [("page", .string "2")]
  body := .null
  headers := {}

/-- Parameters with the names of the request and of a part of it. -/
def forged : Entries Json :=
  [("ctx", .string "forged"), ("ctx.query.page", .string "forged"),
    ("user", .object [("tags", .array [.string "a", .string "b"]), ("name", .string "Ada")]),
    ("user.name", .string "literal")]

/-- Parameters are not taken for the request, and a member outranks the path that its name is. -/
theorem bind_forged :
    let a := bind ["ctx.query.page", "user.tags.1", "user.name", "ctx"] forged secondPage
    a.argument? 0 = some (.value (.string "2")) ∧
      a.argument? 1 = some (.value (.string "b")) ∧
      a.argument? 2 = some (.value (.string "literal")) ∧
      a.argument? 3 = some .context := by
  obtain ⟨-, hargument, hrequest, -, hparameter, -, hpath, hpart⟩ := bind_pointwise
    ["ctx.query.page", "user.tags.1", "user.name", "ctx"] forged secondPage
  have hpage := hpart [.member "query", .member "page"] (.string "2") (by decide) (by decide) rfl
  have htag : lookup forged "user.tags.1" = some (.string "b") :=
    hpath forged [.member "user", .member "tags", .item 1] _ (by decide) (by decide) rfl
  have hname : lookup forged "user.name" = some (.string "literal") :=
    hpath forged [.member "user", .member "name"] (.string "Ada") (by decide) (by decide) rfl
  have htagArgument := hparameter "user.tags.1" (by decide) fun path heq =>
    absurd (isSome_dropStart?_contextStart_iff.2 ⟨path, heq⟩) (by decide)
  have hnameArgument := hparameter "user.name" (by decide) fun path heq =>
    absurd (isSome_dropStart?_contextStart_iff.2 ⟨path, heq⟩) (by decide)
  refine ⟨(hargument 0).trans (congrArg some hpage), ?_, ?_,
    (hargument 3).trans (congrArg some hrequest)⟩
  · rw [htag] at htagArgument
    exact (hargument 1).trans (congrArg some htagArgument)
  · rw [hname] at hnameArgument
    exact (hargument 2).trans (congrArg some hnameArgument)

end Arguments

end Switchboard
