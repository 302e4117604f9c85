import Switchboard.Client.Basic
import Switchboard.Handler.Run
import Switchboard.Proofs.Client.Prepare
import Switchboard.Proofs.Route.Reading
import Switchboard.Proofs.Text.Split

/-!
# Actions under the names of their handlers

A handler is called by its group, a dot and its action, or by its action alone where it has no
group.  A client goes the other way: it takes what stands before the first dot of a name for the
group (`HandlerName.ofDisplay`).  The way back leads to the handler itself exactly when the part
in front, the group or else the action, has no dot in it (`ofDisplay_display_iff`).

Each operation that is added to a client takes the place of an earlier one of the same handler and
no other (`get?_add`), so in the end the last operation of a handler has its place
(`find?_ofDefinition`).
-/

namespace Switchboard

/-! ## Names of handlers -/

/-- The name of the handler, without its arguments. -/
def Target.handler (t : Target) : HandlerName := ⟨t.group, t.action⟩

namespace HandlerName

/-- The handler as it is called in messages and by clients. -/
def display (n : HandlerName) : String :=
  match n.group with
  | some group => group ++ "." ++ n.action
  | none => n.action

/-- The handler that a name is taken for: the first dot stands behind the group. -/
def ofDisplay (name : String) : HandlerName :=
  match Text.splitOnce '.' name.toList with
  | some (group, action) => ⟨some (String.ofList group), String.ofList action⟩
  | none => ⟨none, name⟩

/-- The part in front has no dot: the group, or the action where there is no group. -/
def Plain (n : HandlerName) : Prop := '.' ∉ (n.group.getD n.action).toList

instance (n : HandlerName) : Decidable n.Plain := by
  unfold Plain
  infer_instance

theorem display_ofDisplay (name : String) : (ofDisplay name).display = name := by
  unfold ofDisplay
  cases hsplit : Text.splitOnce '.' name.toList with
  | none => rfl
  | some parts =>
      obtain ⟨group, action⟩ := parts
      have hname := (Text.splitOnce_ok hsplit).1
      apply String.toList_injective
      simp [display, hname]

/-- The part in front of what a name is taken for has no dot. -/
theorem plain_ofDisplay (name : String) : (ofDisplay name).Plain := by
  unfold ofDisplay Plain
  cases hsplit : Text.splitOnce '.' name.toList with
  | none => exact Text.splitOnce_eq_none_iff.1 hsplit
  | some parts =>
      obtain ⟨group, action⟩ := parts
      simpa using (Text.splitOnce_ok hsplit).2

theorem ofDisplay_display_of_plain {n : HandlerName} (h : n.Plain) : ofDisplay n.display = n := by
  obtain ⟨group, action⟩ := n
  cases group with
  | none =>
      have hsplit : Text.splitOnce '.' action.toList = none := Text.splitOnce_eq_none_iff.2 h
      rw [display, ofDisplay]
      dsimp only
      rw [hsplit]
  | some group =>
      have hsplit : Text.splitOnce '.' (group ++ "." ++ action).toList =
          some (group.toList, action.toList) := by
        have htext : (group ++ "." ++ action).toList = group.toList ++ '.' :: action.toList := by
          simp
        rw [htext]
        exact Text.splitOnce_append h action.toList
      rw [display, ofDisplay]
      dsimp only
      rw [hsplit]
      dsimp only
      rw [String.ofList_toList, String.ofList_toList]

/-- A name leads back to its handler exactly when the part in front has no dot. -/
theorem ofDisplay_display_iff {n : HandlerName} : ofDisplay n.display = n ↔ n.Plain := by
  constructor
  · intro h
    rw [← h]
    exact plain_ofDisplay n.display
  · exact ofDisplay_display_of_plain

end HandlerName

theorem Target.display_eq (t : Target) : t.display = t.handler.display := by
  obtain ⟨group, action, mapping⟩ := t
  cases group with
  | none => rfl
  | some group => rfl

/-! ## The operations of a document -/

namespace Document

/-- The last operation of a handler. -/
def lastOf? (d : Document) (n : HandlerName) : Option Placed :=
  (d.operations.filter fun p => p.operation.target.handler = n).getLast?

theorem mem_of_lastOf? {d : Document} {n : HandlerName} {last : Placed}
    (h : d.lastOf? n = some last) :
    last ∈ d.operations ∧ last.operation.target.handler = n := by
  have hmem := List.mem_of_getLast? h
  rw [List.mem_filter, decide_eq_true_eq] at hmem
  exact hmem

theorem exists_lastOf? {d : Document} {p : Placed} (hp : p ∈ d.operations) :
    ∃ last, d.lastOf? p.operation.target.handler = some last := by
  apply Option.isSome_iff_exists.1
  rw [lastOf?, List.getLast?_isSome]
  exact List.ne_nil_of_mem (List.mem_filter.2 ⟨hp, decide_eq_true rfl⟩)

end Document

/-! ## Clients -/

namespace Client

/-- The action of a handler. -/
def get? (c : Client) (n : HandlerName) : Option Action :=
  match n.group with
  | some group => (c.group? group).bind (Entries.get? · n.action)
  | none => c.action? n.action

/-- A name is looked up as the handler it is taken for. -/
theorem find?_eq (c : Client) (name : String) : c.find? name = c.get? (.ofDisplay name) := by
  rw [find?, HandlerName.ofDisplay]
  cases Text.splitOnce '.' name.toList with
  | none => rfl
  | some parts => rfl

theorem base_add (c : Client) (p : Placed) : (c.add p).base = c.base := by
  unfold add
  cases p.operation.target.group with
  | none => rfl
  | some group => rfl

/-- An added operation is the one of its handler, and all other handlers keep theirs. -/
theorem get?_add (c : Client) (p : Placed) (n : HandlerName) :
    (c.add p).get? n =
      if p.operation.target.handler = n then some (.ofPlaced c.base p) else c.get? n := by
  obtain ⟨group, action⟩ := n
  unfold add get? Target.handler action? group?
  cases p.operation.target.group with
  | none =>
      cases group with
      | none => simp [Entries.get?_set]
      | some group => simp
  | some placedGroup =>
      cases group with
      | none => simp
      | some group =>
          by_cases hgroup : placedGroup = group
          · subst hgroup
            cases hothers : Entries.get? c.groups placedGroup with
            | none => simp [Entries.get?_set, hothers]
            | some others => simp [Entries.get?_set, hothers]
          · simp [Entries.get?_set, hgroup]

/-- After a run of additions a handler has the last operation added for it, or what it had. -/
theorem get?_foldl_add (ps : List Placed) (c : Client) (n : HandlerName) :
    (ps.foldl add c).get? n =
      (((ps.filter fun p => p.operation.target.handler = n).getLast?).map
        (Action.ofPlaced c.base)).or (c.get? n) := by
  induction ps generalizing c with
  | nil => rfl
  | cons p rest ih =>
      rw [List.foldl_cons, ih, base_add, get?_add, List.filter_cons]
      by_cases hname : p.operation.target.handler = n
      · rw [if_pos hname, if_pos (decide_eq_true hname), List.getLast?_cons]
        cases (rest.filter fun p => p.operation.target.handler = n).getLast? with
        | none => rfl
        | some last => rfl
      · rw [if_neg hname, if_neg (by simpa using hname)]

/-- A client finds the last operation of the handler that a name is taken for. -/
theorem find?_ofDefinition (base : Url) (definition : Definition) (name : String) :
    (ofDefinition base definition).find? name =
      (definition.document.lastOf? (.ofDisplay name)).map (Action.ofPlaced base) := by
  rw [find?_eq, ofDefinition, get?_foldl_add]
  obtain ⟨group, action⟩ := HandlerName.ofDisplay name
  cases group with
  | none => exact Option.or_none
  | some group => exact Option.or_none

/--
**Actions under their names**: the name of a handler finds the action of the handler's last
operation exactly when the part in front, the group or else the action, has no dot; and an action
that is found under a name is that of the last operation of a handler with this name.  Whatever
definition is loaded from a text declares its operations once (`Definition.distinct_of_ofText`).
-/
theorem find?_display_iff (base : Url) {definition : Definition}
    (hdistinct : definition.document.Distinct) :
    (∀ p ∈ definition.document.operations, ∃ last,
      definition.document.lastOf? p.operation.target.handler = some last ∧
      ((ofDefinition base definition).find? p.operation.target.display =
          some (Action.ofPlaced base last) ↔
        p.operation.target.handler.Plain)) ∧
    ∀ name action, (ofDefinition base definition).find? name = some action →
      ∃ last, definition.document.lastOf? last.operation.target.handler = some last ∧
        last.operation.target.display = name ∧ action = Action.ofPlaced base last := by
  constructor
  · intro p hp
    obtain ⟨last, hlast⟩ := Document.exists_lastOf? hp
    refine ⟨last, hlast, ?_⟩
    rw [find?_ofDefinition, Target.display_eq, ← HandlerName.ofDisplay_display_iff]
    constructor
    · intro hfound
      obtain ⟨found, hfound, haction⟩ := Option.map_eq_some_iff.1 hfound
      obtain ⟨hmem, hhandler⟩ := Document.mem_of_lastOf? hfound
      obtain ⟨hmemLast, hhandlerLast⟩ := Document.mem_of_lastOf? hlast
      -- the actions have one path and one verb, so they are of one operation and so of one handler
      have hsame : found = last :=
        hdistinct.eq_of_mem hmem hmemLast (congrArg Action.path haction)
          (congrArg Action.verb haction)
      rw [← hhandler, hsame, hhandlerLast]
    · intro hname
      rw [hname, hlast]
      rfl
  · intro name action hfound
    rw [find?_ofDefinition] at hfound
    obtain ⟨last, hlast, rfl⟩ := Option.map_eq_some_iff.1 hfound
    have hhandler := (Document.mem_of_lastOf? hlast).2
    refine ⟨last, ?_, ?_, rfl⟩
    · rw [hhandler]
      exact hlast
    · rw [Target.display_eq, hhandler, HandlerName.display_ofDisplay]

/-- A group with an action that has a dot and is declared twice, and an action with a dot and
without a group. -/
def catalogue : Definition :=
  let document : Document :=
    { version := 1
      routes :=
        [("items", ⟨[(.get, { target := { group := some "items", action := "list.all" } })]⟩),
          ("items/all", ⟨[(.get, { target :=
            { group := some "items", action := "list.all", mapping := some ["page"] } })]⟩),
          ("archive", ⟨[(.get, { target := { action := "archive.list" } })]⟩)] }
  ⟨document.toJson, document⟩

/-- The catalogue is loaded from its own text. -/
theorem catalogue_ofText : Definition.ofText catalogue.raw.text = .ok catalogue := by
  have hraw : catalogue.raw.Faithful Json.depthLimit := by
    simp [catalogue, Document.toJson, Operation.toJson, Target.toJson, Inputs.toJson,
      Json.ofOptional, Json.depthLimit, Json.ofInt,
      Number.readsBack_integer_iff, Entries.Distinct, Entries.keys]
  rw [Definition.ofText, hraw.read_text]
  rfl

/-- The first dot of `items.list.all` stands behind the group, and the second declaration counts. -/
theorem catalogue_listAll :
    catalogue.document.Distinct ∧ ∃ last, last.path = "items/all" ∧
      (ofDefinition .localhost catalogue).find? "items.list.all" =
        some (Action.ofPlaced .localhost last) := by
  have hdistinct := Definition.distinct_of_ofText catalogue_ofText
  obtain ⟨hfinds, -⟩ := find?_display_iff .localhost hdistinct
  obtain ⟨last, hlast, hiff⟩ := hfinds ⟨"items", .get, _⟩ List.mem_cons_self
  refine ⟨hdistinct, last, ?_, hiff.2 (by decide)⟩
  obtain rfl := Option.some.inj hlast
  rfl

/-- An action with a dot that has no group is not found under its name. -/
theorem catalogue_archive_not_found :
    ∃ p ∈ catalogue.document.operations,
      catalogue.document.lastOf? p.operation.target.handler = some p ∧
        (ofDefinition .localhost catalogue).find? p.operation.target.display = none := by
  refine ⟨⟨"archive", .get, { target := { action := "archive.list" } }⟩, ?_, rfl, ?_⟩
  · simp [catalogue, Document.operations]
  · rw [find?_ofDefinition]
    rfl

end Client

end Switchboard
