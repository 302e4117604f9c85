import Switchboard.Proofs.Client.Filling
import Switchboard.Proofs.Route.Capture
import Switchboard.Proofs.Text.LowerCase

/-!
# Open parameters in the path of a call

A call is filled by walking the names of the mapping, so a parameter of the path for which the
mapping has no name left stays in the request.  The calls of an action have no open parameter
exactly if the mapping holds the name of each parameter as often as the path does, letter case
aside (`Action.closesTokens_iff`).

A parameter has a name to its place if fewer parameters spelled alike stand before it than the
mapping has such names (`Action.exists_pairs_iff`), so the last of them decides.
-/

namespace Switchboard

section Ranks

variable {α : Type} {p : α → Bool} {l : List α}

private theorem countP_take_lt {i : Nat} {x : α} (h : l[i]? = some x) (hx : p x = true) :
    (l.take i).countP p < l.countP p := by
  induction l generalizing i with
  | nil => simp at h
  | cons y l ih =>
      cases i with
      | zero =>
          obtain rfl : y = x := by simpa using h
          simp [hx]
      | succ i =>
          have hlt := ih (by simpa using h)
          rw [List.take_succ_cons, List.countP_cons, List.countP_cons]
          omega

/-- Below the count there is an element of every rank. -/
private theorem exists_rank_of_lt_countP {k : Nat} (h : k < l.countP p) :
    ∃ i x, l[i]? = some x ∧ p x = true ∧ (l.take i).countP p = k := by
  induction l generalizing k with
  | nil => simp at h
  | cons y l ih =>
      by_cases hy : p y = true
      · cases k with
        | zero => exact ⟨0, y, rfl, hy, rfl⟩
        | succ k =>
            rw [List.countP_cons_of_pos hy] at h
            obtain ⟨i, x, hi, hx, hrank⟩ := ih (Nat.lt_of_succ_lt_succ h)
            refine ⟨i + 1, x, hi, hx, ?_⟩
            rw [List.take_succ_cons, List.countP_cons_of_pos hy, hrank]
      · rw [List.countP_cons_of_neg hy] at h
        obtain ⟨i, x, hi, hx, hrank⟩ := ih h
        refine ⟨i + 1, x, hi, hx, ?_⟩
        rw [List.take_succ_cons, List.countP_cons_of_neg hy, hrank]

end Ranks

/-- The spelling of a parameter is the name of the parameter. -/
theorem spells_token (name token : String) :
    spells name (':' :: token.toList) = Text.eqIgnoringAsciiCase name token := by
  rw [← Slot.awaits_declared]
  simp [Slot.awaits, Text.eqIgnoringAsciiCase, BEq.comm]

/-- What spells a name that is not empty is a parameter, also for the server. -/
theorem spells_iff {name : String} (hname : name ≠ "") {text : List Char} :
    spells name text = true ↔
      ∃ token, Segment.ofText text = .parameter token ∧
        Text.eqIgnoringAsciiCase name token = true := by
  constructor
  · intro hspells
    rw [← Slot.awaits_declared] at hspells
    obtain ⟨token, htoken, hslot, hsame⟩ := Slot.exists_token_of_awaits hname hspells
    exact ⟨token, Segment.ofText_eq_parameter_iff.2 ⟨Slot.declared.inj hslot, htoken⟩, hsame⟩
  · rintro ⟨token, htoken, hsame⟩
    rw [(Segment.ofText_eq_parameter_iff.1 htoken).1, spells_token, hsame]

/-- Names that differ in letter case only have the same spellings. -/
theorem spells_congr {name other : String} (h : Text.eqIgnoringAsciiCase name other = true) :
    spells name = spells other := by
  funext text
  rw [← Slot.awaits_declared, ← Slot.awaits_declared, Slot.awaits_congr h]

namespace Action

variable {a : Action} {given : List Json} {i j : Nat} {token : String}

/-- The segment at a place of the path is a parameter for the server. -/
def TokenAt (a : Action) (j : Nat) (token : String) : Prop :=
  (Template.ofPath a.path).segments[j]? = some (.parameter token)

/-- The segment at a place of the path belongs to a name that has an argument. -/
def HasValue (a : Action) (given : List Json) (j : Nat) : Prop :=
  ∃ i value, a.Pairs i j ∧ given[i]? = some value

/-- No request of the call has an open parameter: the path of a request is the one of the base URL
and the segments of the route with an argument in the place of every parameter, and a call that
leaves one without a value is refused because of a missing argument, unless it has too many. -/
structure ClosesTokens (a : Action) (given : List Json) : Prop where
  closed : ∀ r, a.prepare given = .ok r → ∃ ss slots, a.base.path = .segments ss ∧
    Slot.fillAll a.parameters given a.slots = .ok slots ∧
    r.url.path = .segments ((slots.map Slot.text).foldl (Url.pushSegment a.base.scheme)
      (Url.dropEmptyLast ss)) ∧
    ∀ j token, a.TokenAt j token → ∃ value ∈ given, slots[j]? = some (.filled value.plainText)
  refused : given.length ≤ a.arity → ∀ j token, a.TokenAt j token → ¬ a.HasValue given j →
    ∃ name, a.prepare given = .error (.missingPathArgument a.verb a.path name)

/-- The mapping holds the name of every parameter of the path as often as the path does, letter case
aside. -/
def NamesTokens (a : Action) : Prop :=
  ∀ token ∈ (Template.ofPath a.path).parameterNames,
    (Template.ofPath a.path).parameterNames.countP (Text.eqIgnoringAsciiCase token) ≤
      a.parameters.countP (Text.eqIgnoringAsciiCase token)

instance : Decidable a.NamesTokens :=
  inferInstanceAs (Decidable (∀ token ∈ (Template.ofPath a.path).parameterNames,
    (Template.ofPath a.path).parameterNames.countP (Text.eqIgnoringAsciiCase token) ≤
      a.parameters.countP (Text.eqIgnoringAsciiCase token)))

theorem tokenAt_iff : a.TokenAt j token ↔
    ∃ text, (pathSegments a.path)[j]? = some text ∧ Segment.ofText text = .parameter token := by
  rw [TokenAt, Template.ofPath, List.getElem?_map, Option.map_eq_some_iff]

theorem TokenAt.ne_empty (h : a.TokenAt j token) : token ≠ "" := by
  obtain ⟨text, -, htoken⟩ := tokenAt_iff.1 h
  exact (Segment.ofText_eq_parameter_iff.1 htoken).2

theorem TokenAt.segment (h : a.TokenAt j token) :
    (pathSegments a.path)[j]? = some (':' :: token.toList) := by
  obtain ⟨text, htext, htoken⟩ := tokenAt_iff.1 h
  rw [htext, (Segment.ofText_eq_parameter_iff.1 htoken).1]

theorem TokenAt.mem_parameterNames (h : a.TokenAt j token) :
    token ∈ (Template.ofPath a.path).parameterNames :=
  Template.mem_parameterNames_iff.2 ⟨List.mem_of_getElem? h.segment, h.ne_empty⟩

/-- The segments that spell a name are the parameters of that name. -/
theorem countP_spells (htoken : token ≠ "") :
    (pathSegments a.path).countP (spells token) =
      (Template.ofPath a.path).parameterNames.countP (Text.eqIgnoringAsciiCase token) := by
  rw [Template.parameterNames, Template.ofPath, List.countP_filterMap, List.countP_map]
  refine List.countP_congr fun text _ => ?_
  rw [spells_iff htoken, Function.comp_apply]
  cases Segment.ofText text with
  | literal text => simp [Segment.name?]
  | parameter name => simp [Segment.name?]

/-- A parameter has a name if fewer of its spelling stand before it than the mapping has names. -/
theorem exists_pairs_iff (h : a.TokenAt j token) :
    (∃ i, a.Pairs i j) ↔
      ((pathSegments a.path).take j).countP (spells token) <
        a.parameters.countP (Text.eqIgnoringAsciiCase token) := by
  constructor
  · rintro ⟨i, name, text, hname, htext, hspells, hrank⟩
    obtain rfl := Option.some.inj (h.segment.symm.trans htext)
    rw [spells_token] at hspells
    rw [← spells_congr hspells, ← hrank, ← Text.eqIgnoringAsciiCase_congr hspells]
    exact countP_take_lt hname (Text.eqIgnoringAsciiCase_self name)
  · intro hlt
    obtain ⟨i, name, hname, hsame, hrank⟩ := exists_rank_of_lt_countP hlt
    refine ⟨i, name, _, hname, h.segment, ?_, ?_⟩
    · rw [spells_token, Text.eqIgnoringAsciiCase_comm, hsame]
    · rw [← Text.eqIgnoringAsciiCase_congr hsame, ← spells_congr hsame, hrank]

/-- The last parameter of each spelling decides whether all of them have a name. -/
theorem namesTokens_iff : a.NamesTokens ↔ ∀ j token, a.TokenAt j token → ∃ i, a.Pairs i j := by
  constructor
  · intro hnames j token htoken
    rw [exists_pairs_iff htoken]
    have hrank := countP_take_lt htoken.segment
      (p := spells token) (by rw [spells_token, Text.eqIgnoringAsciiCase_self])
    rw [countP_spells htoken.ne_empty] at hrank
    exact Nat.lt_of_lt_of_le hrank (hnames token htoken.mem_parameterNames)
  · intro hpairs token hmem
    have hne := (Template.mem_parameterNames_iff.1 hmem).2
    have hpos := List.countP_pos_iff.2 ⟨token, hmem, Text.eqIgnoringAsciiCase_self token⟩
    rw [← countP_spells hne] at hpos ⊢
    obtain ⟨j, text, htext, hspells, hrank⟩ := exists_rank_of_lt_countP (Nat.pred_lt hpos.ne')
    obtain ⟨last, hlast, hsame⟩ := (spells_iff hne).1 hspells
    have htoken : a.TokenAt j last := tokenAt_iff.2 ⟨text, htext, hlast⟩
    have hlt := (exists_pairs_iff htoken).1 (hpairs j last htoken)
    rw [← spells_congr hsame, ← Text.eqIgnoringAsciiCase_congr hsame, hrank] at hlt
    exact Nat.le_of_pred_lt hlt

/-! ## Calls -/

theorem prepare_of_segments_error {e : ClientError} (hcount : given.length ≤ a.arity)
    (h : a.segments given = .error e) : a.prepare given = .error e := by
  rw [prepare, if_neg (by omega), h]

theorem Lacks.length_lt (h : a.Lacks given i) : given.length < a.arity := by
  by_contra hle
  exact not_lacks_of_arity_le (by omega) h

/-- A call that lacks an argument is refused because of a missing one. -/
theorem Lacks.prepare_eq_error (h : a.Lacks given i)
    (hurl : (a.inputs.url.map UrlInputs.isDeclared).getD false = true) :
    ∃ name, a.prepare given = .error (.missingPathArgument a.verb a.path name) := by
  obtain ⟨-, name, -, -, herror⟩ := exists_segments_eq_error hurl h
  exact ⟨name, prepare_of_segments_error (Nat.le_of_lt h.length_lt) herror⟩

/-- No other call is refused for that reason. -/
theorem prepare_ne_missingPathArgument
    (hurl : (a.inputs.url.map UrlInputs.isDeclared).getD false = true)
    (hlacks : ∀ i, ¬ a.Lacks given i) (name : String) :
    a.prepare given ≠ .error (.missingPathArgument a.verb a.path name) := by
  obtain ⟨slots, -, hsegments⟩ := exists_segments_eq_ok hurl hlacks
  unfold prepare
  rw [hsegments]
  split
  · simp
  · dsimp only
    split <;> simp

theorem closesTokens_of_namesTokens
    (hurl : (a.inputs.url.map UrlInputs.isDeclared).getD false = true) (hnames : a.NamesTokens) :
    a.ClosesTokens given where
  closed r hr := by
    obtain ⟨-, -, -, ss, texts, hbase, htexts, hpath⟩ := prepare_ok hr
    obtain ⟨slots, hfill, rfl⟩ := segments_eq_ok_iff.1 htexts
    rw [if_pos hurl] at hfill
    refine ⟨ss, slots, hbase, hfill, by rw [hpath, Url.addPairs_path], fun j token htoken => ?_⟩
    obtain ⟨i, hpairs⟩ := namesTokens_iff.1 hnames j token htoken
    obtain ⟨value, hvalue, hfilled⟩ := Slot.fillAll_of_paired hfill (pairs_iff.1 hpairs)
    exact ⟨value, List.mem_of_getElem? hvalue, hfilled⟩
  refused _ j token htoken hopen := by
    obtain ⟨i, hpairs⟩ := namesTokens_iff.1 hnames j token htoken
    have hlacks : a.Lacks given i := by
      refine ⟨⟨j, hpairs⟩, Option.eq_none_iff_forall_ne_some.2 fun value hvalue => ?_⟩
      exact hopen ⟨i, value, hpairs, hvalue⟩
    exact hlacks.prepare_eq_error hurl

/-- A call that is refused in any case leaves nothing open. -/
theorem closesTokens_of_lacks
    (hurl : (a.inputs.url.map UrlInputs.isDeclared).getD false = true) (h : a.Lacks given i) :
    a.ClosesTokens given where
  closed r hr := by
    obtain ⟨name, herror⟩ := h.prepare_eq_error hurl
    rw [herror] at hr
    exact absurd hr (by simp)
  refused _ _ _ _ _ := h.prepare_eq_error hurl

theorem closesTokens_of_arity_lt (h : a.arity < given.length) : a.ClosesTokens given where
  closed r hr := absurd (prepare_ok hr).1 (by omega)
  refused hcount := absurd hcount (by omega)

/-- A request leaves with a parameter as it is declared. -/
theorem not_closesTokens {r : Prepared} {slots : List Slot} {text : List Char}
    (hr : a.prepare given = .ok r) (hfill : Slot.fillAll a.parameters given a.slots = .ok slots)
    (htoken : a.TokenAt j token) (hslot : slots[j]? = some (.declared text)) :
    ¬ a.ClosesTokens given := by
  intro hcloses
  obtain ⟨-, filled, -, hfilled, -, hclosed⟩ := hcloses.closed r hr
  obtain rfl := Except.ok.inj (hfill.symm.trans hfilled)
  obtain ⟨value, -, hvalue⟩ := hclosed j token htoken
  rw [hslot] at hvalue
  exact absurd hvalue (by simp)

/--
**Open parameters**: where path parameters are declared, a call leaves no parameter of the path open
exactly if the mapping holds the name of each parameter as often as the path does, or if the call is
refused for another reason: it has too many arguments, or a name that has a segment lacks its own.
-/
theorem closesTokens_iff (hurl : (a.inputs.url.map UrlInputs.isDeclared).getD false = true)
    (given : List Json) :
    a.ClosesTokens given ↔
      a.NamesTokens ∨ (∃ i, a.Lacks given i) ∨ a.arity < given.length := by
  constructor
  · intro hcloses
    by_contra hnot
    simp only [not_or, not_exists, Nat.not_lt] at hnot
    obtain ⟨hnames, hlacks, hcount⟩ := hnot
    refine hnames (namesTokens_iff.2 fun j token htoken => ?_)
    by_contra hunpaired
    obtain ⟨name, herror⟩ := hcloses.refused hcount j token htoken
      fun ⟨i, _, hpairs, _⟩ => hunpaired ⟨i, hpairs⟩
    exact prepare_ne_missingPathArgument hurl hlacks name herror
  · rintro (hnames | ⟨i, hlacks⟩ | hcount)
    · exact closesTokens_of_namesTokens hurl hnames
    · exact closesTokens_of_lacks hurl hlacks
    · exact closesTokens_of_arity_lt hcount

/-- The two parameters are named in another letter case. -/
theorem showPost_closesTokens :
    showPost.ClosesTokens [.string ":postId", .string "a b"] ∧ showPost.ClosesTokens [.null] :=
  ⟨(closesTokens_iff rfl _).2 (.inl (by decide)), (closesTokens_iff rfl _).2 (.inl (by decide))⟩

/-- `GET users/:id/:id` with path parameters and a mapping. -/
def showPair (mapping : List String) : Action where
  base := .localhost
  path := "users/:id/:id"
  verb := .get
  parameters := mapping
  inputs := { url := some (.flag true) }

theorem showPair_token (mapping : List String) : (showPair mapping).TokenAt 2 "id" := by
  dsimp only [TokenAt, showPair]
  rfl

/-- Without a name for each of them, the parameters of the path are sent as they are declared. -/
theorem showPair_leaves_open :
    (∃ r, (showPair []).prepare [] = .ok r ∧ r.url.requestPath = "/v1/users/:id/:id") ∧
    ¬ (showPair []).ClosesTokens [] ∧
    (∃ r, (showPair ["id"]).prepare [.string "7"] = .ok r ∧
      r.url.requestPath = "/v1/users/7/:id") ∧
    ¬ (showPair ["id"]).ClosesTokens [.string "7"] := by
  exact ⟨⟨_, rfl, rfl⟩, not_closesTokens rfl rfl (showPair_token _) rfl,
    ⟨_, rfl, rfl⟩, not_closesTokens rfl rfl (showPair_token _) rfl⟩

end Action

end Switchboard
