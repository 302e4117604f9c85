import Mathlib.Data.List.TakeWhile
import Switchboard.Client.Basic
import Switchboard.Proofs.Except
import Switchboard.Proofs.Url.Form
import Switchboard.Proofs.Url.Segments

/-!
# The target of a request

A request goes out with the path and the query of its URL in one text, and a server cuts the text at
the first question mark and drops what follows a number sign.  Both halves come back as they were
(`Url.splitTarget_target`) if the path has a segment and neither half holds a character that ends it
(`Url.Requestable`).

No URL that is read holds such a character, as it would have been encoded
(`Url.contained_of_parse`), and nothing that is added to a URL does.  So every URL that a client is
loaded from can be requested (`Client.requestable_of_readBase`), and every URL that is made of it.
-/

namespace Switchboard

namespace Url

/-- No character of the text ends a path. -/
def InPath (text : List Char) : Prop := '?' ∉ text ∧ '#' ∉ text

/-- No part of the URL holds a character that ends it. -/
structure Contained (u : Url) : Prop where
  path (ss : List (List Char)) (hpath : u.path = .segments ss) : ∀ segment ∈ ss, InPath segment
  query : '#' ∉ u.query.getD []

/-- The URL has a path with a segment, and no part of it holds a character that ends it. -/
structure Requestable (u : Url) : Prop extends u.Contained where
  segments : ∃ ss, u.path = .segments ss ∧ ss ≠ []

theorem inPath_nil : InPath [] := ⟨List.not_mem_nil, List.not_mem_nil⟩

theorem inPath_encode {set : EncodeSet} (hquestion : set '?' = true) (hnumber : set '#' = true)
    (text : List Char) : InPath (encode set text) :=
  ⟨notMem_encode hquestion (by decide) text, notMem_encode hnumber (by decide) text⟩

/-! ## Cutting a target -/

theorem inPath_text {ss : List (List Char)} (h : ∀ segment ∈ ss, InPath segment) :
    InPath (Path.segments ss).text := by
  have hnotMem : ∀ c, c ≠ '/' → (∀ segment ∈ ss, c ∉ segment) → c ∉ (Path.segments ss).text := by
    intro c hc hsegments hmem
    obtain ⟨segment, hsegment, hmem⟩ := List.mem_flatMap.1 hmem
    rcases List.mem_cons.1 hmem with rfl | hmem
    · exact hc rfl
    · exact hsegments segment hsegment hmem
  exact ⟨hnotMem _ (by decide) fun segment hsegment => (h segment hsegment).1,
    hnotMem _ (by decide) fun segment hsegment => (h segment hsegment).2⟩

/-- The path and the query of a target are those of the URL. -/
theorem splitTarget_target {u : Url} (h : u.Requestable) :
    Wire.splitTarget (String.ofList u.target) = (u.path.text, u.query.getD []) := by
  obtain ⟨ss, hpath, hne⟩ := h.segments
  obtain ⟨hquestion, hnumber⟩ := inPath_text (h.path ss hpath)
  rw [← hpath] at hquestion hnumber
  obtain ⟨rest, htext⟩ : ∃ rest, u.path.text = '/' :: rest := by
    obtain ⟨s, ss, rfl⟩ := List.exists_cons_of_ne_nil hne
    rw [hpath]
    exact ⟨_, rfl⟩
  have hvisible : ∀ target : List Char, '#' ∉ target → target.head? = some '/' →
      (Wire.fromPath target).takeWhile (· != '#') = target := by
    intro target htarget hslash
    obtain ⟨others, rfl⟩ := List.head?_eq_some_iff.1 hslash
    rw [Wire.fromPath, List.takeWhile_eq_self_iff]
    intro c hc
    rw [bne_iff_ne]
    rintro rfl
    exact htarget hc
  unfold Wire.splitTarget
  rw [String.toList_ofList]
  cases hquery : u.query with
  | none =>
      have htarget : u.target = u.path.text := by simp [target, hquery]
      rw [htarget, hvisible _ hnumber (by rw [htext]; rfl)]
      dsimp only
      rw [Text.splitOnce_eq_none_iff.2 hquestion]
      rfl
  | some query =>
      have htarget : u.target = u.path.text ++ '?' :: query := by simp [target, hquery]
      have hbehind := h.query
      rw [hquery, Option.getD_some] at hbehind
      rw [htarget, hvisible _ (by simp [hnumber, hbehind]) (by rw [htext]; rfl)]
      dsimp only
      rw [Text.splitOnce_append hquestion]
      rfl

/-! ## Adding to a URL -/

section Segments

variable {scheme : String} {ss : List (List Char)} {segment : List Char}

/-- A drive is cut out of the segment itself. -/
theorem inPath_rootSegments (h : InPath segment) :
    ∀ piece ∈ rootSegments segment, InPath piece := by
  unfold rootSegments
  split
  · split <;> simp_all [InPath]
  · split <;> simp_all [InPath]
  · exact List.forall_mem_singleton.2 h

theorem inPath_place (hss : ∀ s ∈ ss, InPath s) (hsegment : InPath segment) (isLast : Bool) :
    ∀ s ∈ place scheme isLast ss segment, InPath s := by
  have hending : ∀ s ∈ (if isLast then [[]] else [] : List (List Char)), InPath s := by
    intro s hs
    split at hs
    · obtain rfl := List.mem_singleton.1 hs
      exact inPath_nil
    · exact absurd hs List.not_mem_nil
  unfold place
  dsimp only
  split
  · exact List.forall_mem_append.2 ⟨hss, hending⟩
  · exact List.forall_mem_append.2 ⟨fun s hs => hss s ((parent_isPrefix ss).subset hs), hending⟩
  · refine List.forall_mem_append.2 ⟨hss, ?_⟩
    split
    · exact inPath_rootSegments hsegment
    · exact List.forall_mem_singleton.2 hsegment

theorem rootSegments_ne_nil (segment : List Char) : rootSegments segment ≠ [] := by
  unfold rootSegments
  split
  · split <;> simp
  · split <;> simp
  · simp

theorem place_ne_nil (ss : List (List Char)) (segment : List Char) :
    place scheme true ss segment ≠ [] := by
  unfold place
  dsimp only
  split
  · simp
  · simp
  · intro h
    obtain ⟨-, h⟩ := List.append_eq_nil_iff.1 h
    split at h
    · exact rootSegments_ne_nil segment h
    · cases h

theorem dropEmptyLast_isPrefix (ss : List (List Char)) : dropEmptyLast ss <+: ss := by
  unfold dropEmptyLast
  split
  · exact List.dropLast_prefix ss
  · exact List.prefix_rfl

theorem dropEmptyLast_ne_nil (h : ss ≠ []) : dropEmptyLast ss ≠ [] := by
  unfold dropEmptyLast
  split
  · rename_i hlast
    rw [← List.length_pos_iff, List.length_dropLast]
    omega
  · exact h

/-- The path has a segment, and none of its segments ends it. -/
structure Rooted (ss : List (List Char)) : Prop where
  ne_nil : ss ≠ []
  inPath : ∀ s ∈ ss, InPath s

theorem Rooted.pushSegment (h : Rooted ss) (text : List Char) :
    Rooted (pushSegment scheme ss text) := by
  unfold Url.pushSegment
  split
  · exact h
  · refine ⟨place_ne_nil _ _, inPath_place ?_ (inPath_encode ?_ ?_ _) true⟩
    · exact fun s hs => h.inPath s ((opened_isPrefix ss).subset hs)
    · exact addedSegmentSet_of_segmentSet scheme (by decide)
    · exact addedSegmentSet_of_segmentSet scheme (by decide)

theorem Rooted.foldl_pushSegment (h : Rooted ss) (texts : List (List Char)) :
    Rooted (texts.foldl (Url.pushSegment scheme) ss) := by
  induction texts generalizing ss with
  | nil => exact h
  | cons text texts ih => exact ih (h.pushSegment text)

end Segments

variable {u : Url}

theorem Requestable.withSegments (h : u.Requestable) {ss : List (List Char)}
    (hpath : u.path = .segments ss) (texts : List (List Char)) :
    Requestable { u with
      path := .segments (texts.foldl (pushSegment u.scheme) (dropEmptyLast ss)) } := by
  obtain ⟨_, hsame, hne⟩ := h.segments
  rw [hpath] at hsame
  obtain rfl := Path.segments.inj hsame
  have hstart : Rooted (dropEmptyLast ss) :=
    ⟨dropEmptyLast_ne_nil hne,
      fun s hs => h.path ss hpath s ((dropEmptyLast_isPrefix ss).subset hs)⟩
  obtain ⟨hfilled, hinside⟩ := hstart.foldl_pushSegment texts
  refine ⟨⟨?_, h.query⟩, _, rfl, hfilled⟩
  rintro _ hnew
  obtain rfl := Path.segments.inj hnew
  exact hinside

theorem number_notMem_formPairs (pairs : List (String × String)) : '#' ∉ formPairs pairs := by
  have htext : ∀ text : String, '#' ∉ formText text.toList := fun text =>
    notMem_formText (by decide) (by decide) (by decide) _
  induction pairs using formPairs.induct with
  | case1 => exact List.not_mem_nil
  | case2 name value => simp [formPairs, htext]
  | case3 name value next rest ih => simp [formPairs, htext, ih]

theorem Requestable.addPairs (h : u.Requestable) (pairs : List (String × String)) :
    (u.addPairs pairs).Requestable := by
  have hadded := number_notMem_formPairs pairs
  unfold Url.addPairs
  split
  · exact h
  dsimp only
  split
  · exact ⟨⟨h.path, hadded⟩, h.segments⟩
  · exact ⟨⟨h.path, hadded⟩, h.segments⟩
  · rename_i query hquery
    have hbefore := h.query
    rw [hquery, Option.getD_some] at hbefore
    exact ⟨⟨h.path, by simp [hbefore, hadded]⟩, h.segments⟩

/-! ## Reading a URL -/

theorem contained_withTail (hpath : ∀ ss, u.path = .segments ss → ∀ segment ∈ ss, InPath segment)
    (rest : List Char) : (u.withTail rest).Contained := by
  refine ⟨hpath, ?_⟩
  unfold withTail
  dsimp only
  split
  · exact notMem_encode (by split <;> decide) (by decide) _
  · exact List.not_mem_nil

theorem inPath_placeAll {scheme : String} {pieces : List (List Char)}
    (hpieces : ∀ piece ∈ pieces, InPath piece) {ss : List (List Char)} (hss : ∀ s ∈ ss, InPath s) :
    ∀ s ∈ placeAll scheme ss pieces, InPath s := by
  induction ss, pieces using placeAll.induct scheme with
  | case1 ss => exact hss
  | case2 ss piece => exact inPath_place hss (hpieces piece List.mem_cons_self) true
  | case3 ss piece rest hrest ih =>
      rw [placeAll]
      · exact ih (fun other hother => hpieces other (List.mem_cons_of_mem _ hother))
          (inPath_place hss (hpieces piece List.mem_cons_self) false)
      · exact hrest

theorem inPath_readSegments (scheme : String) (path : List Char) :
    ∀ s ∈ readSegments scheme path, InPath s := by
  refine inPath_placeAll ?_ (fun s hs => absurd hs List.not_mem_nil)
  intro piece hpiece
  obtain ⟨text, -, rfl⟩ := List.mem_map.1 hpiece
  exact inPath_encode (by decide) (by decide) text

theorem inPath_readPath (scheme : String) (path : List Char) :
    ∀ s ∈ readPath scheme path, InPath s := by
  unfold readPath
  split
  · split
    · exact List.forall_mem_singleton.2 inPath_nil
    · exact fun s hs => absurd hs List.not_mem_nil
  · exact inPath_readSegments _ _

theorem dropEmptyFirst_isSuffix (ss : List (List Char)) : dropEmptyFirst ss <:+ ss := by
  induction ss using dropEmptyFirst.induct with
  | case1 s rest ih =>
      rw [dropEmptyFirst]
      exact ih.trans (List.suffix_cons _ _)
  | case2 ss hss =>
      have hsame : dropEmptyFirst ss = ss := by
        rw [dropEmptyFirst]
        exact hss
      exact ⟨[], hsame⟩

theorem contained_fileUrl (host : Host) (path rest : List Char) :
    (fileUrl host path rest).Contained := by
  refine contained_withTail ?_ rest
  rintro _ hpath
  obtain rfl := Path.segments.inj hpath
  intro s hs
  exact inPath_readSegments fileScheme path s ((dropEmptyFirst_isSuffix _).subset hs)

theorem contained_of_readFile {cs : List Char} (h : readFile cs = .ok u) : u.Contained := by
  unfold readFile at h
  dsimp only at h
  split at h
  · split at h
    · split at h
      · obtain rfl := Except.ok.inj h
        exact contained_fileUrl _ _ _
      · obtain ⟨host, -, rfl⟩ := exists_of_map_eq_ok h
        exact contained_fileUrl _ _ _
    · obtain rfl := Except.ok.inj h
      exact contained_fileUrl _ _ _
  · obtain rfl := Except.ok.inj h
    exact contained_fileUrl _ _ _

theorem contained_of_readWithAuthority {scheme : String} {cs : List Char}
    (h : readWithAuthority scheme cs = .ok u) : u.Contained := by
  unfold readWithAuthority at h
  dsimp only at h
  -- the path is read the same way whether a user is named or not
  split at h
  all_goals
    split at h
    · cases h
    obtain ⟨host, -, h⟩ := exists_of_bind_eq_ok h
    split at h
    · cases h
    obtain ⟨⟨port, more⟩, -, h⟩ := exists_of_bind_eq_ok h
    dsimp only at h
    split at h
    · cases h
    obtain rfl := Except.ok.inj h
    refine contained_withTail ?_ _
    rintro _ hpath
    obtain rfl := Path.segments.inj hpath
    exact inPath_readPath _ _

/-- A URL that is read has each part within its bounds. -/
theorem contained_of_parse {text : String} (h : parse text = .ok u) : u.Contained := by
  unfold parse at h
  split at h
  · cases h
  · rename_i scheme cs _
    split at h
    · exact contained_of_readFile h
    · split at h
      · exact contained_of_readWithAuthority h
      · split at h
        · exact contained_of_readWithAuthority h
        · obtain rfl := Except.ok.inj h
          refine contained_withTail ?_ _
          rintro _ hpath
          obtain rfl := Path.segments.inj hpath
          exact inPath_readSegments _ _
        · obtain rfl := Except.ok.inj h
          refine contained_withTail ?_ _
          rintro _ hpath
          cases hpath

theorem Contained.withSlash (h : u.Contained) (hsegments : u.hasSegments = true) :
    u.withSlash.Requestable := by
  unfold Url.withSlash
  cases hpath : u.path with
  | flat text => simp [hasSegments, hpath] at hsegments
  | segments ss =>
      dsimp only
      split
      · rename_i hlast
        refine ⟨h, ss, hpath, ?_⟩
        rintro rfl
        cases hlast
      · refine ⟨⟨?_, h.query⟩, _, rfl, by simp⟩
        rintro _ hnew
        obtain rfl := Path.segments.inj hnew
        exact List.forall_mem_append.2 ⟨h.path ss hpath, List.forall_mem_singleton.2 inPath_nil⟩

end Url

namespace Client

/-- A URL from which a client is loaded can be requested. -/
theorem requestable_of_readBase {text : String} {base : Url} (h : readBase text = .ok base) :
    base.Requestable := by
  unfold readBase at h
  split at h
  · cases h
  · rename_i u hu
    split at h
    · rename_i hsegments
      obtain rfl := Except.ok.inj h
      exact (Url.contained_of_parse hu).withSlash hsegments
    · cases h

end Client

end Switchboard
