import Switchboard.Proofs.Client.Prepare

/-!
# The shape of the path of a call

A call should reach a path with one segment for every segment that is declared,
whatever its arguments are.  It does so exactly when every text that is put into
the path stays (`KeepsShape`): one that is empty, a dot or two dots once the
dropped characters are gone is lost, leaves a hole or leads out of the path
reached so far, and the call is then one of another route.

One URL does not keep its own segments: where the path is `//`, the first
segment gives way too.  And below the root of a file system a text may be read
as a drive, which is why necessity leaves out the scheme of files.
-/

namespace Switchboard

namespace Url

/-- The segments without an empty one at the end. -/
def stem (ss : List (List Char)) : List (List Char) :=
  if ss.getLast? = some [] then ss.dropLast else ss

/-- The segments as a path has them that cannot be empty. -/
def rooted (ss : List (List Char)) : List (List Char) := if ss = [] then [[]] else ss

/-- A path consists of the segments of another, without an empty one at the end, and so many more
segments, none of which is empty. -/
def GrowsBy (n : Nat) (ss p : List (List Char)) : Prop :=
  ∃ new, rooted p = rooted (stem ss ++ new) ∧ new.length = n ∧ ∀ s ∈ new, s ≠ []

/-- The texts make one segment each behind the segments of a path. -/
structure KeepsShape (ss texts : List (List Char)) : Prop where
  stays : ∀ text ∈ texts, Stays text
  /-- The two empty segments of the path `//` do not both remain when something is added. -/
  apart : ss = [[], []] → texts = []

theorem dropEmptyLast_cons_cons (s t : List Char) (rest : List (List Char)) :
    dropEmptyLast (s :: t :: rest) = stem (s :: t :: rest) := by
  simp [dropEmptyLast, stem]

theorem rooted_dropEmptyLast (ss : List (List Char)) :
    rooted (dropEmptyLast ss) = rooted (stem ss) := by
  match ss with
  | [] => rfl
  | [s] =>
      by_cases hs : s = []
      · subst hs
        rfl
      · simp [dropEmptyLast, stem, hs]
  | s :: t :: rest => rw [dropEmptyLast_cons_cons]

theorem root_eq_stem {ss : List (List Char)} (h : ss ≠ [[], []]) : root ss = stem ss := by
  match ss with
  | [] => rfl
  | [s] =>
      by_cases hs : s = []
      · subst hs
        rfl
      · simp [root, dropEmptyLast, stem, hs]
  | s :: t :: rest =>
      rw [root, dropEmptyLast_cons_cons, if_neg]
      intro hstem
      unfold stem at hstem
      split at hstem
      · rename_i hlast
        cases rest with
        | nil =>
            obtain rfl : s = [] := by simpa using hstem
            obtain rfl : t = [] := by simpa using hlast
            exact h rfl
        | cons u rest => simp at hstem
      · simp at hstem

/-- Texts that keep the shape are the new segments. -/
theorem foldl_pushSegment_of_keepsShape {scheme : String} {ss texts : List (List Char)}
    (h : KeepsShape ss texts) (hdrive : ¬ MakesDrive scheme ss texts) :
    rooted (texts.foldl (pushSegment scheme) (dropEmptyLast ss)) =
      rooted (stem ss ++ texts.map (sent scheme)) := by
  by_cases hnil : texts = []
  · subst hnil
    simpa using rooted_dropEmptyLast ss
  · have hne : ss ≠ [[], []] := fun heq => hnil (h.apart heq)
    rw [foldl_pushSegment_of_stays h.stays hdrive hnil, root_eq_stem hne]

/-! ## Counting segments -/

/-- A segment that is not empty. -/
def filledSegment (s : List Char) : List (List Char) := if s = [] then [] else [s]

private theorem counts_filledSegment (scheme : String) : Counts scheme filledSegment where
  nil := rfl
  sent_le text := by
    unfold filledSegment
    split <;> simp

private theorem flatMap_filledSegment_rooted (ss : List (List Char)) :
    (rooted ss).flatMap filledSegment = ss.flatMap filledSegment := by
  unfold rooted
  split
  · rename_i h
    simp [h, filledSegment]
  · rfl

private theorem flatMap_filledSegment_stem (ss : List (List Char)) :
    (stem ss).flatMap filledSegment = ss.flatMap filledSegment := by
  unfold stem
  split
  · rename_i hlast
    obtain ⟨front, rfl⟩ : ∃ front, ss = front ++ [[]] := by
      obtain ⟨hne, hlast⟩ := List.getLast?_eq_some_iff.1 hlast
      exact ⟨hne, hlast⟩
    simp [filledSegment]
  · rfl

private theorem flatMap_filledSegment_of_ne {new : List (List Char)} (h : ∀ s ∈ new, s ≠ []) :
    new.flatMap filledSegment = new := by
  induction new with
  | nil => rfl
  | cons s new ih =>
      rw [List.flatMap_cons, ih fun t ht => h t (by simp [ht]), filledSegment,
        if_neg (h s (by simp))]
      rfl

/-- Outside of file systems the path has the right shape only if nothing was lost. -/
theorem keepsShape_of_growsBy {scheme : String} (hscheme : scheme ≠ fileScheme)
    {ss texts : List (List Char)}
    (h : GrowsBy texts.length ss (texts.foldl (pushSegment scheme) (dropEmptyLast ss))) :
    KeepsShape ss texts := by
  obtain ⟨new, heq, hlen, hne⟩ := h
  have hfound := congrArg (fun p => (List.flatMap filledSegment p).length) heq
  simp only [flatMap_filledSegment_rooted, List.flatMap_append, List.length_append,
    flatMap_filledSegment_stem, flatMap_filledSegment_of_ne hne, hlen] at hfound
  have hbase : (dropEmptyLast ss).flatMap filledSegment = ss.flatMap filledSegment := by
    rw [← flatMap_filledSegment_rooted, rooted_dropEmptyLast, flatMap_filledSegment_rooted,
      flatMap_filledSegment_stem]
  have hgrown : ((dropEmptyLast ss).flatMap filledSegment).length + texts.length ≤
      ((texts.foldl (pushSegment scheme) (dropEmptyLast ss)).flatMap filledSegment).length := by
    refine Nat.le_of_eq ?_
    rw [hfound, hbase]
  have hstays : ∀ text ∈ texts, Stays text :=
    stays_of_length_foldl_pushSegment (counts_filledSegment scheme) hscheme hgrown
  refine ⟨hstays, ?_⟩
  rintro rfl
  refine Decidable.byContradiction fun hnil => ?_
  have hdrive : ¬ MakesDrive scheme [[], []] texts := fun hmakes => hscheme hmakes.1
  rw [foldl_pushSegment_of_stays hstays hdrive hnil] at heq
  have hlong := congrArg List.length heq
  have hpos := List.length_pos_iff.2 hnil
  rw [show root [[], []] = [] from rfl, show stem [[], []] = [[]] from rfl, rooted, rooted,
    if_neg (by simpa using hnil), if_neg (by simp)] at hlong
  simp only [List.nil_append, List.length_map, List.length_append, List.length_singleton,
    hlen] at hlong
  omega

end Url

namespace Action

/--
**The shape of a call**: the path of a prepared request is the path of the base URL with one
encoded segment for every text, if each text stays; and only then, outside of file systems, has it
one segment that is not empty for each segment of the declared path.
-/
theorem prepare_growsBy_iff {a : Action} {given : List Json} {r : Prepared}
    (h : a.prepare given = .ok r) :
    ∃ ss texts p, a.base.path = .segments ss ∧ a.segments given = .ok texts ∧
      r.url.path = .segments p ∧
      (Url.KeepsShape ss texts → ¬ Url.MakesDrive a.base.scheme ss texts →
        Url.rooted p = Url.rooted (Url.stem ss ++ texts.map (Url.sent a.base.scheme))) ∧
      (a.base.scheme ≠ Url.fileScheme →
        (Url.GrowsBy (pathSegments a.path).length ss p ↔ Url.KeepsShape ss texts)) := by
  obtain ⟨-, -, -, ss, texts, hbase, htexts, hurl⟩ := prepare_ok h
  refine ⟨ss, texts, _, hbase, htexts, by rw [hurl, Url.addPairs_path],
    Url.foldl_pushSegment_of_keepsShape, fun hscheme => ?_⟩
  rw [← length_segments htexts]
  constructor
  · exact Url.keepsShape_of_growsBy hscheme
  · intro hkeeps
    have hdrive : ¬ Url.MakesDrive a.base.scheme ss texts := fun hmakes => hscheme hmakes.1
    refine ⟨_, Url.foldl_pushSegment_of_keepsShape hkeeps hdrive, by simp, ?_⟩
    intro s hs
    obtain ⟨text, htext, rfl⟩ := List.mem_map.1 hs
    exact fun hnil => (hkeeps.stays text htext).1 (Url.sent_eq_nil_iff.1 hnil)

/-- `GET users/:id`. -/
def showUser : Action where
  base := .localhost
  path := "users/:id"
  verb := .get
  parameters := ["id"]
  inputs := { url := some (.flag true) }

/-- A call of `GET users/:id` that keeps its shape: the slash and the percent sign are encoded. -/
theorem showUser_growsBy_two :
    ∃ r ss texts p, showUser.prepare [.string "a/b%2e"] = .ok r ∧
      showUser.base.path = .segments ss ∧ showUser.segments [.string "a/b%2e"] = .ok texts ∧
      r.url.path = .segments p ∧ Url.KeepsShape ss texts ∧ Url.GrowsBy 2 ss p := by
  obtain ⟨r, hr⟩ : ∃ r, showUser.prepare [.string "a/b%2e"] = .ok r := ⟨_, rfl⟩
  obtain ⟨ss, texts, p, hbase, htexts, hp, -, hiff⟩ := prepare_growsBy_iff hr
  obtain rfl : [['v', '1'], []] = ss := by injection hbase
  obtain rfl : [['u', 's', 'e', 'r', 's'], ['a', '/', 'b', '%', '2', 'e']] = texts := by
    injection htexts
  have hkeeps : Url.KeepsShape [['v', '1'], []]
      [['u', 's', 'e', 'r', 's'], ['a', '/', 'b', '%', '2', 'e']] :=
    ⟨by decide, by decide⟩
  exact ⟨r, _, _, p, hr, hbase, htexts, hp, hkeeps, (hiff (by decide)).2 hkeeps⟩

/-- Two dots for the user lead to the list of all users instead of one of them. -/
theorem showUser_dots_lose_segment :
    ∃ r, showUser.prepare [.string ".."] = .ok r ∧
      r.url.path = .segments [['v', '1'], ['u', 's', 'e', 'r', 's']] ∧
      ¬ Url.GrowsBy (pathSegments showUser.path).length [['v', '1'], []]
        [['v', '1'], ['u', 's', 'e', 'r', 's']] := by
  refine ⟨_, rfl, rfl, ?_⟩
  rintro ⟨new, heq, hlen, -⟩
  have hlong := congrArg List.length heq
  rw [show (pathSegments showUser.path).length = 2 from rfl] at hlen
  rw [show Url.stem [['v', '1'], []] = [['v', '1']] from rfl, Url.rooted, Url.rooted,
    if_neg (by simp), if_neg (by simp)] at hlong
  simp only [List.length_append, List.length_cons, List.length_nil, hlen] at hlong
  omega

end Action

end Switchboard
