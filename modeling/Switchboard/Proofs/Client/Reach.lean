import Switchboard.Proofs.Client.Prepare
import Switchboard.Proofs.Route.Capture

/-!
# Which routes a call reaches

A client encodes every segment of a path, those of the route included, and a
server compares the segments of the route with what it receives, as it is.  A
route without parameters is therefore reached exactly when each of its segments
is sent as it is (`KeepsPath`, `keepsPath_pathSegments_iff`): a blank, a letter
outside of ASCII or a percent sign in it is enough to lose the route.

The other direction counts what the server finds between the slashes: it must
find as many segments below the base path as the client has put there, so none
of them was lost on the way (`stays_of_below`).
-/

namespace Switchboard

namespace Template

theorem ofText_of_literal {path : String} (h : (ofPath path).parameterNames = []) {text : List Char}
    (htext : text ∈ pathSegments path) : Segment.ofText text = .literal (String.ofList text) := by
  refine Segment.ofText_eq_literal fun name hname => ?_
  have hmem : Segment.parameter name ∈ (ofPath path).segments := hname ▸ List.mem_map_of_mem htext
  have hnone := List.filterMap_eq_nil_iff.1 h _ hmem
  simp [Segment.name?] at hnone

/-- A template without parameters fits the paths of its own segments. -/
theorem capture?_isSome_iff_of_literal {path relative : String}
    (h : (ofPath path).parameterNames = []) :
    (∃ captured, (ofPath path).capture? relative = some captured) ↔
      pathSegments relative = pathSegments path := by
  rw [exists_capture?_iff]
  constructor
  · rintro ⟨hlen, hat⟩
    refine List.ext_getElem? fun j => ?_
    cases htext : (pathSegments path)[j]? with
    | none =>
        rw [List.getElem?_eq_none_iff] at htext ⊢
        omega
    | some text => exact hat j text htext (ofText_of_literal h (List.mem_of_getElem? htext))
  · intro heq
    rw [heq]
    exact ⟨rfl, fun j text htext _ => htext⟩

end Template

namespace Url

private theorem counts_parts (scheme : String) : Counts scheme (Text.parts '/') where
  nil := rfl
  sent_le text := by
    by_cases hnil : sent scheme text = []
    · simp [hnil]
    · rw [Text.parts_of_notMem (slash_notMem_sent scheme text) hnil]
      simp

private theorem flatMap_parts_root (ss : List (List Char)) :
    (root ss).flatMap (Text.parts '/') = (dropEmptyLast ss).flatMap (Text.parts '/') := by
  unfold root
  split
  · rename_i h
    rw [h]
    rfl
  · rfl

/-- Outside of file systems a server finds as many segments as there are texts only if these are
the encoded texts. -/
theorem stays_of_below {u : Url} {ss texts : List (List Char)} (hpath : u.path = .segments ss)
    (hscheme : u.scheme ≠ fileScheme) {relative : String}
    (hrelative : Mount.relative? u.basePath (String.ofList (Path.segments
      (texts.foldl (pushSegment u.scheme) (dropEmptyLast ss))).text) = some relative)
    (hlen : (pathSegments relative).length = texts.length) :
    (∀ text ∈ texts, Stays text) ∧ pathSegments relative = texts.map (sent u.scheme) := by
  obtain ⟨htext, hstart⟩ := Mount.relative?_eq_some_iff.1 hrelative
  have hfound : (texts.foldl (pushSegment u.scheme) (dropEmptyLast ss)).flatMap (Text.parts '/') =
      (dropEmptyLast ss).flatMap (Text.parts '/') ++ pathSegments relative := by
    have hparts := congrArg (Text.parts '/') htext
    rw [Text.parts_append _ hstart] at hparts
    simpa [basePath, hpath, Path.text, Text.parts_flatMap, flatMap_parts_root,
      pathSegments] using hparts
  have hgrown := congrArg List.length hfound
  rw [List.length_append, hlen] at hgrown
  have hstays : ∀ text ∈ texts, Stays text :=
    stays_of_length_foldl_pushSegment (counts_parts u.scheme) hscheme (Nat.le_of_eq hgrown.symm)
  have hdrive : ¬ MakesDrive u.scheme ss texts := fun hmakes => hscheme hmakes.1
  obtain ⟨other, hother, hsegments⟩ := below_of_stays hpath hstays hdrive
  obtain rfl : relative = other := by
    rw [hrelative] at hother
    exact Option.some.inj hother
  exact ⟨hstays, hsegments⟩

/-- The texts come to a server as the segments of a path. -/
def KeepsPath (scheme path : String) (texts : List (List Char)) : Prop :=
  (∀ text ∈ texts, Stays text) ∧ texts.map (sent scheme) = pathSegments path

/-- A path comes through when all its segments are sent as they are. -/
theorem keepsPath_pathSegments_iff {scheme path : String} :
    KeepsPath scheme path (pathSegments path) ↔
      ∀ text ∈ pathSegments path, SentAsIs scheme text := by
  constructor
  · rintro ⟨hstays, hsent⟩ text htext
    have hself : sent scheme text = text := by
      refine List.map_inj_left.1 (hsent.trans (List.map_id _).symm) text htext
    exact (stays_and_sent_eq_iff.1 ⟨hstays text htext, hself⟩).2
  · intro h
    have hboth : ∀ text ∈ pathSegments path, Stays text ∧ sent scheme text = text :=
      fun text htext => stays_and_sent_eq_iff.2 ⟨(Text.mem_parts htext).1, h text htext⟩
    refine ⟨fun text htext => (hboth text htext).1, ?_⟩
    conv => rhs; rw [← List.map_id (pathSegments path)]
    exact List.map_inj_left.2 fun text htext => (hboth text htext).2

end Url

namespace Action

/-- No argument goes into a path without parameters, unless a colon stands alone in it. -/
theorem segments_of_literal {a : Action} (hliteral : (Template.ofPath a.path).parameterNames = [])
    (hcolon : [':'] ∉ pathSegments a.path) (given : List Json) :
    a.segments given = .ok (pathSegments a.path) := by
  have hwaits : ∀ slot ∈ a.slots, ∀ name, slot.awaits name = false := by
    intro slot hslot name
    obtain ⟨text, htext, rfl⟩ := List.mem_map.1 hslot
    cases hawaits : (Slot.declared text).awaits name with
    | false => rfl
    | true =>
        obtain ⟨spelling, heq, -⟩ := Slot.exists_of_awaits hawaits
        obtain rfl : text = ':' :: spelling := Slot.declared.inj heq
        cases spelling with
        | nil => exact absurd htext hcolon
        | cons c rest =>
            have hliteral := Template.ofText_of_literal hliteral htext
            simp [Segment.ofText] at hliteral
  rw [segments_eq_ok_iff]
  refine ⟨a.slots, ?_, ?_⟩
  · rw [Slot.fillAll_of_not_awaits hwaits, ite_self]
  · simp [slots, Function.comp_def, Slot.text]

/--
**Reaching a route without parameters**: the server finds the route of a prepared request if its
texts come through as the segments of the path, and outside of file systems only then; as long as no
colon stands alone in the path, this depends on the route only and means that all of its segments
are sent as they are.
-/
theorem prepare_reaches_iff {a : Action} {given : List Json} {r : Prepared}
    (h : a.prepare given = .ok r) (hliteral : (Template.ofPath a.path).parameterNames = []) :
    ∃ ss texts, a.base.path = .segments ss ∧ a.segments given = .ok texts ∧
      ([':'] ∉ pathSegments a.path →
        (Url.KeepsPath a.base.scheme a.path texts ↔
          ∀ text ∈ pathSegments a.path, Url.SentAsIs a.base.scheme text)) ∧
      (Url.KeepsPath a.base.scheme a.path texts → ¬ Url.MakesDrive a.base.scheme ss texts →
        ∃ captured, a.Reaches r captured) ∧
      (a.base.scheme ≠ Url.fileScheme →
        ((∃ captured, a.Reaches r captured) ↔ Url.KeepsPath a.base.scheme a.path texts)) := by
  obtain ⟨-, -, -, ss, texts, hbase, htexts, hurl⟩ := prepare_ok h
  have hrequest : r.url.requestPath = String.ofList (Url.Path.segments
      (texts.foldl (Url.pushSegment a.base.scheme) (Url.dropEmptyLast ss))).text := by
    rw [hurl, Url.requestPath, Url.addPairs_path]
  have hreach : Url.KeepsPath a.base.scheme a.path texts →
      ¬ Url.MakesDrive a.base.scheme ss texts → ∃ captured, a.Reaches r captured := by
    rintro ⟨hstays, hsent⟩ hdrive
    obtain ⟨relative, hrelative, hsegments⟩ := Url.below_of_stays hbase hstays hdrive
    obtain ⟨captured, hcaptured⟩ :=
      (Template.capture?_isSome_iff_of_literal hliteral).2 (hsegments.trans hsent)
    exact ⟨captured, relative, by rw [hrequest, hrelative], hcaptured⟩
  refine ⟨ss, texts, hbase, htexts, fun hcolon => ?_, hreach, fun hscheme => ⟨?_, fun hkeeps => ?_⟩⟩
  · obtain rfl : pathSegments a.path = texts := by
      have hsame := segments_of_literal hliteral hcolon given
      rw [htexts] at hsame
      exact (Except.ok.inj hsame).symm
    exact Url.keepsPath_pathSegments_iff
  · rintro ⟨captured, relative, hrelative, hcaptured⟩
    rw [hrequest] at hrelative
    have hsegments := (Template.capture?_isSome_iff_of_literal hliteral).1 ⟨captured, hcaptured⟩
    have hlen : (pathSegments relative).length = texts.length := by
      rw [hsegments, length_segments htexts]
    obtain ⟨hstays, hsent⟩ := Url.stays_of_below hbase hscheme hrelative hlen
    exact ⟨hstays, hsent.symm.trans hsegments⟩
  · exact hreach hkeeps fun hmakes => hscheme hmakes.1

/-- `GET users/active`. -/
def activeUsers : Action where
  base := .localhost
  path := "users/active"
  verb := .get
  parameters := []
  inputs := {}

theorem activeUsers_reached :
    ∃ r captured, activeUsers.prepare [] = .ok r ∧ activeUsers.Reaches r captured := by
  obtain ⟨r, hr⟩ : ∃ r, activeUsers.prepare [] = .ok r := ⟨_, rfl⟩
  obtain ⟨ss, texts, -, htexts, hroute, -, hiff⟩ := prepare_reaches_iff hr (by decide)
  have hsent : ∀ text ∈ pathSegments activeUsers.path,
      Url.SentAsIs activeUsers.base.scheme text := by
    decide
  obtain ⟨captured, hcaptured⟩ := (hiff (by decide)).2 ((hroute (by decide)).2 hsent)
  exact ⟨r, captured, hr, hcaptured⟩

/-- A blank in the route is sent encoded and not found by the server. -/
theorem blank_not_reached :
    ∃ r, { activeUsers with path := "active users" }.prepare [] = .ok r ∧
      (Template.ofPath "active users").parameterNames = [] ∧
      ¬ ∃ captured, { activeUsers with path := "active users" }.Reaches r captured := by
  refine ⟨_, rfl, by decide, ?_⟩
  rintro ⟨captured, relative, hrelative, hcaptured⟩
  obtain rfl : "/active%20users" = relative := by
    injection hrelative
  injection hcaptured

end Action

end Switchboard
