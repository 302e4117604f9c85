import Switchboard.Proofs.Server.Selection
import Switchboard.Server.Wire

/-!
# Slashes that do not count

Before a router sees a request from the wire, the slashes of its path are put in order.  What
comes of a path is a slash before each of its segments (`normalize_eq_flatMap`), which is how
a base path is written too.  So a path below a base path stays below it, and what follows the
base path keeps its segments.

A service looks at nothing but segments there: the document is shown where its name is the
only one, and a template is held against one segment after another.  It answers a path as it
answers the path in order (`normalized_alike`).
-/

namespace Switchboard

namespace Wire

/-- The text up to the first slash stays, and each piece after it gets one slash. -/
theorem mergeSlashes_eq {cs : List Char} (h : cs.getLast? ≠ some '/') :
    mergeSlashes cs =
      cs.takeWhile (· != '/') ++ (Text.parts '/' (cs.dropWhile (· != '/'))).flatMap ('/' :: ·) := by
  induction cs with
  | nil => rfl
  | cons c rest ih =>
      have hrest : rest.getLast? ≠ some '/' := by
        intro hlast
        apply h
        rw [List.getLast?_cons, hlast]
        rfl
      rw [mergeSlashes]
      by_cases hc : c = '/'
      · subst hc
        rw [List.takeWhile_cons_of_neg (by decide), List.dropWhile_cons_of_neg (by decide),
          List.nil_append, Text.parts_cons_sep]
        cases rest with
        | nil => exact absurd rfl h
        | cons d rest =>
            by_cases hd : d = '/'
            · -- of two slashes the first goes
              subst hd
              rw [if_pos ⟨rfl, rfl⟩, ih hrest, List.takeWhile_cons_of_neg (by decide),
                List.dropWhile_cons_of_neg (by decide), List.nil_append]
            · -- a piece begins
              rw [if_neg (by simpa using hd), ih hrest, Text.parts_cons_of_ne hd,
                List.takeWhile_cons_of_pos (by simpa using hd),
                List.dropWhile_cons_of_pos (by simpa using hd), List.flatMap_cons]
              rfl
      · rw [if_neg (fun hslashes => hc hslashes.1), ih hrest,
          List.takeWhile_cons_of_pos (by simpa using hc),
          List.dropWhile_cons_of_pos (by simpa using hc), List.cons_append]

/-- A path in order is a slash before each of its segments. -/
theorem normalize_eq_flatMap {path : List Char} (hroot : path.head? = some '/')
    (hparts : Text.parts '/' path ≠ []) :
    normalize path = (Text.parts '/' path).flatMap ('/' :: ·) := by
  have htrim : normalize path = let merged := mergeSlashes (Text.dropTrailing '/' path)
      if merged = [] then ['/'] else merged := rfl
  have hmerged : mergeSlashes (Text.dropTrailing '/' path) =
      (Text.parts '/' path).flatMap ('/' :: ·) := by
    rw [mergeSlashes_eq (Text.getLast?_dropTrailing_ne '/' path),
      ← Text.parts_dropTrailing '/' path]
    obtain ⟨slashes, hpath, hslashes⟩ := Text.exists_eq_dropTrailing_append '/' path
    cases hkept : Text.dropTrailing '/' path with
    | nil => rfl
    | cons c rest =>
        -- what is kept begins as the path does
        have hc : c = '/' := by
          rw [hpath, hkept] at hroot
          simpa using hroot
        rw [hc, List.takeWhile_cons_of_neg (by decide), List.dropWhile_cons_of_neg (by decide)]
        rfl
  have hne : (Text.parts '/' path).flatMap ('/' :: ·) ≠ [] := by
    obtain ⟨piece, pieces, hpieces⟩ := List.exists_cons_of_ne_nil hparts
    rw [hpieces]
    simp
  rw [htrim, hmerged]
  exact if_neg hne

end Wire

namespace Mount

/-- A base path is a slash before each of its segments. -/
theorem toList_basePath (m : Mount) (version : Nat) :
    (m.basePath version).toList = (m.segments version).flatMap ('/' :: ·) := by
  have hne : m.segments version ≠ [] := by simp [segments]
  rw [basePath, String.toList_ofList, Text.cons_join '/' hne]

/-- A path below a base path stays below it, and what follows the base path keeps its segments. -/
theorem relative?_normalize {m : Mount} {version : Nat} {path relative : String}
    (h : relative? (m.basePath version) path = some relative) :
    ∃ normal, relative? (m.basePath version) (String.ofList (Wire.normalize path.toList)) =
        some normal ∧ pathSegments normal = pathSegments relative := by
  have hbase := toList_basePath m version
  have hsegments : Text.parts '/' path.toList = m.segments version ++ pathSegments relative := by
    have hcut := pathSegments_of_relative?_eq_some h
    rwa [pathSegments_basePath] at hcut
  have hroot : path.toList.head? = some '/' := by
    have htext := (relative?_eq_some_iff.1 h).1
    rw [htext, basePath, String.toList_ofList]
    rfl
  have hparts : Text.parts '/' path.toList ≠ [] := by
    rw [hsegments]
    simp [segments]
  have hnormal : Wire.normalize path.toList =
      (m.basePath version).toList ++ (pathSegments relative).flatMap ('/' :: ·) := by
    rw [Wire.normalize_eq_flatMap hroot hparts, hsegments, List.flatMap_append, hbase]
  refine ⟨String.ofList ((pathSegments relative).flatMap ('/' :: ·)), ?_, ?_⟩
  · rw [relative?_eq_some_iff, String.toList_ofList, String.toList_ofList]
    exact ⟨hnormal, Text.flatMap_starts '/' _⟩
  · rw [pathSegments, String.toList_ofList, Text.parts_flatMap_eq_self]
    intro piece hpiece
    exact Text.mem_parts hpiece

end Mount

variable {σ : Type} {path relative other : String}

/-- Paths of the same segments fit the same templates, with the same values. -/
theorem Template.capture?_congr (t : Template) (h : pathSegments relative = pathSegments other) :
    t.capture? relative = t.capture? other := by
  rw [capture?, capture?, h]

namespace Service

variable {s : Service σ}

theorem showsDocument_congr (h : pathSegments relative = pathSegments other) (method : String) :
    ShowsDocument method relative ↔ ShowsDocument method other := by
  rw [ShowsDocument, ShowsDocument, isDocumentPath_iff, isDocumentPath_iff, h]

theorem find?_congr (h : pathSegments relative = pathSegments other) (method : String) :
    s.find? method relative = s.find? method other := by
  unfold find?
  simp only [Template.capture?_congr _ h]

theorem place?_congr (h : pathSegments relative = pathSegments other) (method : String) :
    s.place? method relative = s.place? method other := by
  unfold place? Endpoint.accepts
  simp only [Template.capture?_congr _ h]

/--
**Slashes do not count**: a path below the base path is there with its slashes put in order too.
The document is shown for the one if it is for the other, and the same operation is found, at the
same place of the document and with the same values of the parameters in the path.
-/
theorem normalized_alike {definition : Definition} {handlers : Handlers σ} {registry : Registry}
    {mount : Mount} (h : Service.bind definition handlers registry mount = .ok s)
    (hrelative : Mount.relative? s.basePath path = some relative) :
    ∃ normal,
      Mount.relative? s.basePath (String.ofList (Wire.normalize path.toList)) = some normal ∧
      ∀ method,
        (ShowsDocument method normal ↔ ShowsDocument method relative) ∧
        s.place? method normal = s.place? method relative ∧
        s.find? method normal = s.find? method relative := by
  have hbase := (Service.bind_ok h).1
  rw [hbase] at hrelative
  obtain ⟨normal, hnormal, hsegments⟩ := Mount.relative?_normalize hrelative
  refine ⟨normal, by rw [hbase]; exact hnormal, ?_⟩
  intro method
  exact ⟨showsDocument_congr hsegments method, place?_congr hsegments method,
    find?_congr hsegments method⟩

/-- The definition of an API with one operation, which looks a user up. -/
def directory : Definition where
  raw := .null
  document :=
    { version := 1
      routes := [("users/:id", ⟨[(.get, { target := { action := "lookUp" } })]⟩)] }

/-- Handlers with one action that finds nobody. -/
def lookUps : Handlers Unit :=
  Handlers.register {} none [("lookUp", fun _ => .done (.returned .null))]

theorem directory_normalized :
    ∃ s : Service Unit, Service.bind directory lookUps {} { prefixPath := "//shop" } = .ok s ∧
      Mount.relative? s.basePath "/api/shop/v1//users///42//" = some "//users///42//" ∧
      ∃ normal, Mount.relative? s.basePath "/api/shop/v1/users/42" = some normal ∧
        s.find? "GET" normal = s.find? "GET" "//users///42//" ∧
        (s.find? "GET" normal).isSome = true := by
  obtain ⟨s, hs, hrelative, hfound⟩ : ∃ s : Service Unit,
      Service.bind directory lookUps {} { prefixPath := "//shop" } = .ok s ∧
      Mount.relative? s.basePath "/api/shop/v1//users///42//" = some "//users///42//" ∧
      (s.find? "GET" "//users///42//").isSome = true := ⟨_, rfl, by decide, by decide⟩
  have hpath : String.ofList (Wire.normalize "/api/shop/v1//users///42//".toList) =
      "/api/shop/v1/users/42" := by decide
  obtain ⟨normal, hnormal, hsame⟩ := normalized_alike hs hrelative
  rw [hpath] at hnormal
  have hfind := (hsame "GET").2.2
  exact ⟨s, hs, hrelative, normal, hnormal, hfind, by rw [hfind, hfound]⟩

end Service

end Switchboard
