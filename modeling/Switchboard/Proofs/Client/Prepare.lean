import Switchboard.Proofs.Client.Substitution
import Switchboard.Proofs.Server.Mount
import Switchboard.Proofs.Url.Segments

/-!
# What a prepared request holds

A request that is prepared has the URL of the action with the segments of the
path pushed and the pairs of the query added, and the body of its arguments
(`prepare_ok`).  As many segments are pushed as the path declares
(`length_segments`).

Where all of them stay, a server below the same base path finds exactly the
encoded segments, one for each: `below_of_stays`.
-/

namespace Switchboard

namespace Url

@[simp] theorem addPairs_path (u : Url) (pairs : List (String × String)) :
    (u.addPairs pairs).path = u.path := by
  unfold addPairs
  split
  · rfl
  · dsimp only
    split <;> rfl

/-- The path below which segments are added, without a slash at its end. -/
def basePath (u : Url) : String :=
  match u.path with
  | .segments ss => String.ofList (Path.segments (root ss)).text
  | .flat text => String.ofList text

/-- The path as a server receives it. -/
def requestPath (u : Url) : String := String.ofList u.path.text

theorem parts_sent {scheme : String} {text : List Char} (h : Stays text) :
    Text.parts '/' (sent scheme text) = [sent scheme text] :=
  Text.parts_of_notMem (slash_notMem_sent scheme text) fun hnil => h.1 (sent_eq_nil_iff.1 hnil)

theorem flatMap_parts_sent {scheme : String} {texts : List (List Char)}
    (h : ∀ text ∈ texts, Stays text) :
    (texts.map (sent scheme)).flatMap (Text.parts '/') = texts.map (sent scheme) := by
  induction texts with
  | nil => rfl
  | cons text texts ih =>
      rw [List.map_cons, List.flatMap_cons, parts_sent (h text (by simp)),
        ih fun t ht => h t (by simp [ht])]
      rfl

/-- Below the base path a server finds the segments that were sent, and nothing else. -/
theorem below_of_stays {u : Url} {ss texts : List (List Char)} (hpath : u.path = .segments ss)
    (hstays : ∀ text ∈ texts, Stays text) (hdrive : ¬ MakesDrive u.scheme ss texts) :
    ∃ relative,
      Mount.relative? u.basePath (String.ofList (Path.segments
        (texts.foldl (pushSegment u.scheme) (dropEmptyLast ss))).text) = some relative ∧
      pathSegments relative = texts.map (sent u.scheme) := by
  have hbase : u.basePath.toList = (Path.segments (root ss)).text := by
    simp [basePath, hpath]
  cases texts with
  | nil =>
      by_cases hempty : dropEmptyLast ss = [[]]
      · refine ⟨"/", ?_, rfl⟩
        rw [Mount.relative?_eq_some_iff, hbase]
        simp [root, hempty, Path.text]
      · refine ⟨"", ?_, rfl⟩
        rw [Mount.relative?_eq_some_iff, hbase]
        simp [root, hempty]
  | cons text texts =>
      refine ⟨String.ofList (((text :: texts).map (sent u.scheme)).flatMap ('/' :: ·)), ?_, ?_⟩
      · rw [Mount.relative?_eq_some_iff, hbase,
          foldl_pushSegment_of_stays hstays hdrive (by simp)]
        refine ⟨?_, .inr ?_⟩
        · simp [Path.text]
        · simp
      · rw [pathSegments, String.toList_ofList, Text.parts_flatMap, flatMap_parts_sent hstays]

end Url

namespace Action

/-- What holds of a request that was prepared. -/
theorem prepare_ok {a : Action} {given : List Json} {r : Prepared}
    (h : a.prepare given = .ok r) :
    given.length ≤ a.arity ∧ r.method = a.verb.method ∧ r.body = a.body given ∧
      ∃ ss texts, a.base.path = .segments ss ∧ a.segments given = .ok texts ∧
        r.url = { a.base with
          path := .segments (texts.foldl (Url.pushSegment a.base.scheme)
            (Url.dropEmptyLast ss)) }.addPairs (a.queryPairs given) := by
  unfold prepare at h
  split at h
  · simp at h
  · rename_i hcount
    split at h
    · simp at h
    · rename_i texts htexts
      unfold Url.pushSegments at h
      cases hpath : a.base.path with
      | flat text => simp [hpath] at h
      | segments ss =>
          simp only [hpath, Except.ok.injEq] at h
          subst h
          exact ⟨by omega, rfl, rfl, ss, texts, rfl, htexts, rfl⟩

theorem segments_eq_ok_iff {a : Action} {given : List Json} {texts : List (List Char)} :
    a.segments given = .ok texts ↔
      ∃ slots, (if (a.inputs.url.map UrlInputs.isDeclared).getD false then
          Slot.fillAll a.parameters given a.slots else .ok a.slots) = .ok slots ∧
        texts = slots.map Slot.text := by
  unfold segments
  dsimp only
  split
  · rename_i filled hfilled
    rw [hfilled]
    constructor
    · intro h
      exact ⟨filled, rfl, by simpa using h.symm⟩
    · rintro ⟨slots, hslots, rfl⟩
      obtain rfl : filled = slots := by simpa using hslots
      rfl
  · rename_i name hname
    rw [hname]
    simp

/-- There are as many segments in a call as there are in the path. -/
theorem length_segments {a : Action} {given : List Json} {texts : List (List Char)}
    (h : a.segments given = .ok texts) : texts.length = (pathSegments a.path).length := by
  obtain ⟨filled, hfilled, rfl⟩ := segments_eq_ok_iff.1 h
  rw [List.length_map]
  split at hfilled
  · rw [Slot.length_fillAll hfilled, slots, List.length_map]
  · obtain rfl : a.slots = filled := by simpa using hfilled
    rw [slots, List.length_map]

/-- A segment of a call is the one that is declared there, or the argument of the name paired
with it if path parameters are declared. -/
theorem getElem?_segments {a : Action} {given : List Json} {texts : List (List Char)}
    (h : a.segments given = .ok texts) {j : Nat} {text : List Char}
    (htext : (pathSegments a.path)[j]? = some text) :
    texts[j]? = some text ∨
      (a.inputs.url.map UrlInputs.isDeclared).getD false = true ∧
        ∃ i value, Slot.Paired a.parameters a.slots i j ∧ given[i]? = some value ∧
          texts[j]? = some value.plainText := by
  obtain ⟨filled, hfilled, rfl⟩ := segments_eq_ok_iff.1 h
  have hslot : a.slots[j]? = some (.declared text) := by
    rw [slots, List.getElem?_map, htext, Option.map_some]
  rw [List.getElem?_map]
  split at hfilled
  · rename_i hdeclared
    rcases Slot.getElem?_fillAll hfilled j with ⟨i, value, hpaired, hvalue, hresult⟩ | ⟨-, hsame⟩
    · exact .inr ⟨hdeclared, i, value, hpaired, hvalue, by rw [hresult]; rfl⟩
    · exact .inl (by rw [hsame, hslot]; rfl)
  · obtain rfl : a.slots = filled := by simpa using hfilled
    exact .inl (by rw [hslot]; rfl)

/-- The argument of a paired name is in its segment. -/
theorem getElem?_segments_of_paired {a : Action} {given : List Json} {texts : List (List Char)}
    (h : a.segments given = .ok texts)
    (hdeclared : (a.inputs.url.map UrlInputs.isDeclared).getD false = true) {i j : Nat}
    (hpaired : Slot.Paired a.parameters a.slots i j) :
    ∃ value, given[i]? = some value ∧ texts[j]? = some value.plainText := by
  obtain ⟨filled, hfilled, rfl⟩ := segments_eq_ok_iff.1 h
  rw [if_pos hdeclared] at hfilled
  obtain ⟨value, hvalue, hresult⟩ := Slot.fillAll_of_paired hfilled hpaired
  exact ⟨value, hvalue, by rw [List.getElem?_map, hresult]; rfl⟩

theorem segments_isOk {a : Action} {given : List Json} (h : a.arity ≤ given.length) :
    ∃ texts, a.segments given = .ok texts := by
  obtain ⟨result, hresult⟩ := Slot.fillAll_isOk a.slots h
  by_cases hdeclared : (a.inputs.url.map UrlInputs.isDeclared).getD false = true
  · exact ⟨_, segments_eq_ok_iff.2 ⟨result, by rw [if_pos hdeclared, hresult], rfl⟩⟩
  · exact ⟨_, segments_eq_ok_iff.2 ⟨a.slots, by rw [if_neg hdeclared], rfl⟩⟩

/-- A call with the right number of arguments is prepared. -/
theorem prepare_isOk {a : Action} {given : List Json} {ss : List (List Char)}
    (hbase : a.base.path = .segments ss) (hcount : given.length = a.arity) :
    ∃ r, a.prepare given = .ok r := by
  obtain ⟨texts, htexts⟩ := segments_isOk (Nat.le_of_eq hcount.symm)
  unfold prepare
  rw [if_neg (by omega), htexts]
  simp [Url.pushSegments, hbase]

/-- A server that serves the route of the action below the same base path finds it in the path of
the request and captures these values. -/
def Reaches (a : Action) (r : Prepared) (captured : Entries Json) : Prop :=
  ∃ relative, Mount.relative? a.base.basePath r.url.requestPath = some relative ∧
    (Template.ofPath a.path).capture? relative = some captured

end Action

/-- The segments of the path of an operation as they are declared. -/
def Placed.slots (p : Placed) : List Slot := (pathSegments p.path).map Slot.declared

/-- `http://localhost/v1/`. -/
def Url.localhost : Url where
  scheme := "http"
  authority := some { host := .name ['l', 'o', 'c', 'a', 'l', 'h', 'o', 's', 't'] }
  path := .segments [['v', '1'], []]

end Switchboard
