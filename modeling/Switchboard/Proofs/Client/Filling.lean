import Switchboard.Proofs.Client.Prepare

/-!
# The path of a call

The entries of a mapping and the segments of a path belong together in pairs: the first
entry of a name and the first segment that spells it, the second entry and the second
segment, and so on (`Action.Pairs`).  A call is refused for the first entry that has a
segment and no argument; without such an entry every paired segment holds the text of
its argument and every other one is as it is declared (`Action.segments_of_isDeclared`).

Which entry is the first without an argument does not depend on the segments that are
filled before it, because filling one takes its entry and its segment out of all counts
(`Slot.fillAll_eq_error_iff`).
-/

namespace Switchboard

namespace Slot

variable {names : List String} {slots : List Slot} {given : List Json} {name : String}

/-- The name at a place has a segment and no argument. -/
def Lacks (names : List String) (slots : List Slot) (given : List Json) (i : Nat) : Prop :=
  (∃ j, Paired names slots i j) ∧ given[i]? = none

/-- The name at a place has a segment and no argument, and no earlier one is such. -/
def LacksFirst (names : List String) (slots : List Slot) (given : List Json) (i : Nat) : Prop :=
  Lacks names slots given i ∧ ∀ k < i, ¬ Lacks names slots given k

theorem lacks_succ_iff_of_not_awaits (h : slots.any (awaits name) = false) {i : Nat} :
    Lacks (name :: names) slots given (i + 1) ↔ Lacks names slots given.tail i := by
  unfold Lacks
  rw [List.getElem?_tail]
  exact and_congr_left fun _ => exists_congr fun _ => paired_succ_iff_of_not_awaits h

theorem lacks_succ_iff {before after : List Slot} {slot : Slot} (hslot : slot.awaits name = true)
    (hbefore : ∀ s ∈ before, s.awaits name = false) (value : Json) {i : Nat} :
    Lacks (name :: names) (before ++ slot :: after) (value :: given) (i + 1) ↔
      Lacks names (before ++ filled value.plainText :: after) given i := by
  unfold Lacks
  rw [List.getElem?_cons_succ]
  exact and_congr_left fun _ => exists_congr fun _ => paired_succ_iff hslot hbefore _

/-- A first name that lacks nothing can be forgotten. -/
theorem exists_lacksFirst_cons_iff {first : String} {slots' : List Slot} {given' : List Json}
    (hzero : ¬ Lacks (first :: names) slots given 0)
    (hsucc : ∀ i, Lacks (first :: names) slots given (i + 1) ↔ Lacks names slots' given' i) :
    (∃ i, (first :: names)[i]? = some name ∧ LacksFirst (first :: names) slots given i) ↔
      ∃ i, names[i]? = some name ∧ LacksFirst names slots' given' i := by
  constructor
  · rintro ⟨i, hname, hlacks, hnone⟩
    cases i with
    | zero => exact absurd hlacks hzero
    | succ i =>
        refine ⟨i, by simpa using hname, (hsucc i).1 hlacks, fun k hk hlack => ?_⟩
        exact hnone (k + 1) (by omega) ((hsucc k).2 hlack)
  · rintro ⟨i, hname, hlacks, hnone⟩
    refine ⟨i + 1, by simpa using hname, (hsucc i).2 hlacks, fun k hk hlack => ?_⟩
    cases k with
    | zero => exact hzero hlack
    | succ k => exact hnone k (by omega) ((hsucc k).1 hlack)

/-- The error is the first name that has a segment and no argument. -/
theorem fillAll_eq_error_iff :
    fillAll names given slots = .error name ↔
      ∃ i, names[i]? = some name ∧ LacksFirst names slots given i := by
  induction names generalizing given slots with
  | nil => simp [fillAll]
  | cons first names ih =>
      cases hany : slots.any (awaits first) with
      | false =>
          -- nothing waits for the first name, so it has no segment
          have hzero : ¬ Lacks (first :: names) slots given 0 := by
            rintro ⟨⟨j, n, slot, hn, hslot, hawaits, -⟩, -⟩
            obtain rfl : first = n := by simpa using hn
            have htrue := List.any_eq_true.2 ⟨slot, List.mem_of_getElem? hslot, hawaits⟩
            rw [hany] at htrue
            exact absurd htrue (by decide)
          rw [exists_lacksFirst_cons_iff hzero fun i => lacks_succ_iff_of_not_awaits hany, ← ih]
          simp [fillAll, hany]
      | true =>
          cases given with
          | nil =>
              obtain ⟨before, slot, after, rfl, hslot, hbefore, -⟩ := fill_eq hany []
              have hlacks : Lacks (first :: names) (before ++ slot :: after) [] 0 :=
                ⟨⟨_, (paired_zero_iff hslot hbefore).2 rfl⟩, rfl⟩
              have herror : fillAll (first :: names) [] (before ++ slot :: after) =
                  .error first := by simp [fillAll, hany]
              rw [herror, Except.error.injEq]
              constructor
              · rintro rfl
                exact ⟨0, rfl, hlacks, fun k hk => absurd hk (Nat.not_lt_zero k)⟩
              · rintro ⟨i, hname, -, hnone⟩
                cases i with
                | zero => simpa using hname
                | succ i => exact absurd hlacks (hnone 0 (Nat.succ_pos i))
          | cons value given =>
              obtain ⟨before, slot, after, rfl, hslot, hbefore, hfill⟩ :=
                fill_eq hany value.plainText
              have hzero : ¬ Lacks (first :: names) (before ++ slot :: after)
                  (value :: given) 0 := fun h => absurd h.2 (by simp)
              rw [exists_lacksFirst_cons_iff hzero fun i => lacks_succ_iff hslot hbefore value,
                ← ih, ← hfill]
              simp [fillAll, hany]

end Slot

/-- A segment of a path is the parameter of that name, in any letter case. -/
def spells (name : String) (text : List Char) : Bool :=
  Text.eqIgnoringAsciiCase (String.ofList text) (":" ++ name)

theorem Slot.awaits_declared (name : String) (text : List Char) :
    (Slot.declared text).awaits name = spells name text := by
  simp [Slot.awaits, spells, Text.eqIgnoringAsciiCase]

namespace Action

variable {a : Action} {given : List Json} {i j : Nat}

/-- A name of the mapping and a segment of the path belong together: the segment spells the name,
and as many earlier segments spell it as there are earlier names equal to it. -/
def Pairs (a : Action) (i j : Nat) : Prop :=
  ∃ name text, a.parameters[i]? = some name ∧ (pathSegments a.path)[j]? = some text ∧
    spells name text = true ∧
    (a.parameters.take i).countP (Text.eqIgnoringAsciiCase name) =
      ((pathSegments a.path).take j).countP (spells name)

/-- A name of the mapping has a segment and no argument. -/
def Lacks (a : Action) (given : List Json) (i : Nat) : Prop :=
  (∃ j, a.Pairs i j) ∧ given[i]? = none

/-- A name of the mapping has a segment and no argument, and no earlier one is such. -/
def LacksFirst (a : Action) (given : List Json) (i : Nat) : Prop :=
  a.Lacks given i ∧ ∀ k < i, ¬ a.Lacks given k

/-- The segments of a call: the text of its argument in the place of every segment that belongs to
a name, and every other segment as it is declared. -/
structure Substituted (a : Action) (given : List Json) (texts : List (List Char)) : Prop where
  length : texts.length = (pathSegments a.path).length
  paired : ∀ i j, a.Pairs i j → ∃ value, given[i]? = some value ∧ texts[j]? = some value.plainText
  copied : ∀ j, (∀ i, ¬ a.Pairs i j) → texts[j]? = (pathSegments a.path)[j]?

theorem pairs_iff : a.Pairs i j ↔ Slot.Paired a.parameters a.slots i j := by
  have hcount (name : String) : (a.slots.take j).countP (Slot.awaits name) =
      ((pathSegments a.path).take j).countP (spells name) := by
    rw [slots, ← List.map_take, List.countP_map]
    exact congrArg (List.countP · _) (funext (Slot.awaits_declared name))
  constructor
  · rintro ⟨name, text, hname, htext, hspells, heq⟩
    refine ⟨name, .declared text, hname, ?_, ?_, by rw [heq, hcount]⟩
    · rw [slots, List.getElem?_map, htext, Option.map_some]
    · rw [Slot.awaits_declared, hspells]
  · rintro ⟨name, slot, hname, hslot, hawaits, heq⟩
    rw [slots, List.getElem?_map] at hslot
    obtain ⟨text, htext, rfl⟩ := Option.map_eq_some_iff.1 hslot
    rw [Slot.awaits_declared] at hawaits
    exact ⟨name, text, hname, htext, hawaits, by rw [heq, hcount]⟩

theorem lacks_iff : a.Lacks given i ↔ Slot.Lacks a.parameters a.slots given i :=
  and_congr_left fun _ => exists_congr fun _ => pairs_iff

theorem lacksFirst_iff : a.LacksFirst given i ↔ Slot.LacksFirst a.parameters a.slots given i :=
  and_congr lacks_iff (forall₂_congr fun _ _ => not_congr lacks_iff)

/-- A call with as many arguments as names lacks none. -/
theorem not_lacks_of_arity_le (h : a.arity ≤ given.length) : ¬ a.Lacks given i := by
  rintro ⟨⟨j, name, text, hname, -⟩, hnone⟩
  have hlt := (List.getElem?_eq_some_iff.1 hname).1
  rw [List.getElem?_eq_none_iff] at hnone
  unfold arity at h
  omega

theorem not_lacks_of_fillAll {slots : List Slot}
    (h : Slot.fillAll a.parameters given a.slots = .ok slots) : ¬ a.Lacks given i := by
  rintro ⟨⟨j, hpairs⟩, hnone⟩
  obtain ⟨value, hvalue, -⟩ := Slot.fillAll_of_paired h (pairs_iff.1 hpairs)
  rw [hnone] at hvalue
  exact absurd hvalue (by simp)

theorem substituted_of_fillAll {slots : List Slot}
    (h : Slot.fillAll a.parameters given a.slots = .ok slots) :
    a.Substituted given (slots.map Slot.text) where
  length := by rw [List.length_map, Slot.length_fillAll h, Action.slots, List.length_map]
  paired i j hpairs := by
    obtain ⟨value, hvalue, hfilled⟩ := Slot.fillAll_of_paired h (pairs_iff.1 hpairs)
    exact ⟨value, hvalue, by rw [List.getElem?_map, hfilled]; rfl⟩
  copied j hnone := by
    rw [List.getElem?_map, Slot.fillAll_of_not_paired h fun i => mt pairs_iff.2 (hnone i),
      Action.slots, List.getElem?_map, Option.map_map]
    exact Option.map_id'

/-- A call that lacks an argument is refused for the first name without one. -/
theorem exists_segments_eq_error
    (hurl : (a.inputs.url.map UrlInputs.isDeclared).getD false = true) (h : a.Lacks given i) :
    ∃ k name, a.parameters[k]? = some name ∧ a.LacksFirst given k ∧
      a.segments given = .error (.missingPathArgument a.verb a.path name) := by
  cases hfill : Slot.fillAll a.parameters given a.slots with
  | ok slots => exact absurd h (not_lacks_of_fillAll hfill)
  | error name =>
      obtain ⟨k, hname, hfirst⟩ := Slot.fillAll_eq_error_iff.1 hfill
      exact ⟨k, name, hname, lacksFirst_iff.2 hfirst, by simp [segments, hurl, hfill]⟩

theorem exists_segments_eq_ok
    (hurl : (a.inputs.url.map UrlInputs.isDeclared).getD false = true)
    (h : ∀ i, ¬ a.Lacks given i) :
    ∃ slots, Slot.fillAll a.parameters given a.slots = .ok slots ∧
      a.segments given = .ok (slots.map Slot.text) := by
  cases hfill : Slot.fillAll a.parameters given a.slots with
  | ok slots => exact ⟨slots, rfl, by simp [segments, hurl, hfill]⟩
  | error name =>
      obtain ⟨k, -, hfirst⟩ := Slot.fillAll_eq_error_iff.1 hfill
      exact absurd (lacks_iff.2 hfirst.1) (h k)

/--
**Simultaneous substitution**: where path parameters are declared, a call is refused for the first
name that has a segment and no argument; if there is none, all names get their segments at once, so
that the text of an argument is never taken for a parameter.
-/
theorem segments_of_isDeclared (hurl : (a.inputs.url.map UrlInputs.isDeclared).getD false = true)
    (given : List Json) :
    ((∃ i, a.Lacks given i) →
      ∃ i name, a.parameters[i]? = some name ∧ a.LacksFirst given i ∧
        a.segments given = .error (.missingPathArgument a.verb a.path name)) ∧
    ((∀ i, ¬ a.Lacks given i) →
      ∃ texts, a.segments given = .ok texts ∧ a.Substituted given texts) := by
  refine ⟨fun ⟨i, hlacks⟩ => exists_segments_eq_error hurl hlacks, fun hnone => ?_⟩
  obtain ⟨slots, hfill, hsegments⟩ := exists_segments_eq_ok hurl hnone
  exact ⟨_, hsegments, substituted_of_fillAll hfill⟩

/-- `GET users/:userId/posts/:POSTID`, called with a user and a post. -/
def showPost : Action where
  base := .localhost
  path := "users/:userId/posts/:POSTID"
  verb := .get
  parameters := ["userId", "postId"]
  inputs := { url := some (.flag true) }

/-- The text of the first argument is the parameter of the second. -/
theorem segments_of_isDeclared_showPost :
    (∃ i name, showPost.parameters[i]? = some name ∧ showPost.LacksFirst [.string ":postId"] i ∧
      showPost.segments [.string ":postId"] =
        .error (.missingPathArgument .get "users/:userId/posts/:POSTID" name)) ∧
    ∃ texts, showPost.segments [.string ":postId", .string "a b"] = .ok texts ∧
      showPost.Substituted [.string ":postId", .string "a b"] texts := by
  refine ⟨(segments_of_isDeclared rfl _).1 ⟨1, ⟨3, ?_⟩, rfl⟩,
    (segments_of_isDeclared rfl _).2 fun i => not_lacks_of_arity_le (by decide)⟩
  exact ⟨"postId", ":POSTID".toList, rfl, rfl, by decide, by decide⟩

end Action

end Switchboard
