import Switchboard.Proofs.Entries
import Switchboard.Proofs.Except
import Switchboard.Server.Assembly

/-!
# Putting a server together

A server is put together in steps that may come in any order: type parsers and APIs are registered,
and the definition of an API may be loaded from a file first, which can fail.  A step that fails
leaves the assembly as it was; what all others do is the business of two of its fields, so a run of
steps comes to its parsers and its registrations, each in their order (`Assembly.run_eq`).

From there on the assembly is the map of the registrations: a module stands where it was registered
first and has what it was registered with last.  `Assembly.boot_builds` says what is made of it.
-/

namespace Switchboard

variable {σ : Type}

/-! ## Steps -/

/-- The API of a module, under the given prefix or else under the name of the module. -/
def Registration.entry (settings : Settings) (module : String) (handlers : Handlers σ)
    (prefixPath : Option String) (definition : Definition) : String × Registration σ :=
  (module, ⟨handlers, definition, .ofSettings (prefixPath.getD module) settings⟩)

/-- What is done to a server that is being put together. -/
inductive BootStep (σ : Type) where
  | typeParser (names : List String) (parser : TypeParser)
  | api (module : String) (handlers : Handlers σ) (definition : Definition)
      (prefixPath : Option String)
  /-- An API with the definition in a file, or the reason why there is none. -/
  | file (module : String) (handlers : Handlers σ) (loaded : Except DefinitionError Definition)
      (prefixPath : Option String)

namespace BootStep

/-- The assembly after the step, or its error. -/
def attempt (a : Assembly σ) : BootStep σ → Except BootError (Assembly σ)
  | typeParser names parser => .ok (a.registerParser names parser)
  | api module handlers definition prefixPath =>
    .ok (a.register module handlers definition prefixPath)
  | file module handlers loaded prefixPath => a.registerFile module handlers loaded prefixPath

/-- The error of the step. -/
def failure? : BootStep σ → Option BootError
  | file module _ (.error cause) _ => some (.definition module cause)
  | _ => none

/-- The type parser that the step registers. -/
def parser? : BootStep σ → Option (List String × TypeParser)
  | typeParser names parser => some (names, parser)
  | _ => none

/-- The API that the step registers, under its module. -/
def registration? (settings : Settings) : BootStep σ → Option (String × Registration σ)
  | typeParser _ _ => none
  | api module handlers definition prefixPath =>
    some (Registration.entry settings module handlers prefixPath definition)
  | file module handlers loaded prefixPath =>
    loaded.toOption.map (Registration.entry settings module handlers prefixPath)

theorem attempt_eq_error_iff (a : Assembly σ) (s : BootStep σ) (cause : BootError) :
    s.attempt a = .error cause ↔ s.failure? = some cause := by
  cases s with
  | typeParser names parser => simp [attempt, failure?]
  | api module handlers definition prefixPath => simp [attempt, failure?]
  | file module handlers loaded prefixPath =>
      cases loaded with
      | ok definition => simp [attempt, failure?, Assembly.registerFile]
      | error reason => simp [attempt, failure?, Assembly.registerFile]

end BootStep

namespace Assembly

/-- The assembly after a step; one that fails changes nothing. -/
def step (a : Assembly σ) (s : BootStep σ) : Assembly σ :=
  match s.attempt a with
  | .ok after => after
  | .error _ => a

/-- The assembly after steps. -/
def run (a : Assembly σ) (steps : List (BootStep σ)) : Assembly σ := steps.foldl step a

/-- Adds the type parsers of steps to those that are there. -/
def addParsers (parsers : Registry) (steps : List (BootStep σ)) : Registry :=
  (steps.filterMap BootStep.parser?).foldl (fun acc entry => acc.register entry.1 entry.2) parsers

theorem step_of_failure {s : BootStep σ} {cause : BootError} (h : s.failure? = some cause)
    (a : Assembly σ) : a.step s = a := by
  rw [step, (s.attempt_eq_error_iff a cause).2 h]

/-- A step adds its parser to the parsers and sets its API among the APIs. -/
theorem step_eq (a : Assembly σ) (s : BootStep σ) :
    a.step s =
      { settings := a.settings
        parsers := addParsers a.parsers [s]
        apis := Entries.merge a.apis ([s].filterMap (BootStep.registration? a.settings)) } := by
  cases s with
  | typeParser names parser => rfl
  | api module handlers definition prefixPath => rfl
  | file module handlers loaded prefixPath =>
      cases loaded with
      | ok definition => rfl
      | error reason => rfl

/-- A run adds the parsers to the parsers and sets the APIs among the APIs. -/
theorem run_eq (a : Assembly σ) (steps : List (BootStep σ)) :
    a.run steps =
      { settings := a.settings
        parsers := addParsers a.parsers steps
        apis := Entries.merge a.apis (steps.filterMap (BootStep.registration? a.settings)) } := by
  induction steps generalizing a with
  | nil => rfl
  | cons s rest ih =>
      have hrun : a.run (s :: rest) = (a.step s).run rest := rfl
      have hsplit : s :: rest = [s] ++ rest := rfl
      rw [hrun, ih, step_eq, hsplit]
      simp only [addParsers, Entries.merge, List.filterMap_append, List.foldl_append]

theorem run_filter (a : Assembly σ) (steps : List (BootStep σ)) :
    a.run (steps.filter fun s => s.failure?.isNone) = a.run steps := by
  induction steps generalizing a with
  | nil => rfl
  | cons s rest ih =>
      have hrun : a.run (s :: rest) = (a.step s).run rest := rfl
      cases hs : s.failure? with
      | some cause =>
          rw [List.filter_cons_of_neg (by simp [hs]), ih, hrun, step_of_failure hs]
      | none =>
          rw [List.filter_cons_of_pos (by simp [hs]), hrun]
          exact ih (a.step s)

end Assembly

/-! ## What is registered -/

/-- The service of a registered API. -/
def Registration.bind (api : Registration σ) (parsers : Registry) : Except BootError (Service σ) :=
  Service.bind api.definition api.handlers parsers api.mount

/-- What the last registration of a module binds to. -/
def bindLast? (registrations : Entries (Registration σ)) (parsers : Registry) (module : String) :
    Option (Except BootError (Service σ)) :=
  (Entries.get? registrations.reverse module).map fun api => api.bind parsers

theorem bindLast?_of_mem {registrations : Entries (Registration σ)} {module : String}
    {api : Registration σ} (h : (module, api) ∈ Entries.ofPairs registrations)
    (parsers : Registry) : bindLast? registrations parsers module = some (api.bind parsers) := by
  have hget := (Entries.distinct_ofPairs registrations).get?_of_mem h
  rw [Entries.ofPairs, Entries.get?_merge, Entries.get?_nil, Option.or_none] at hget
  rw [bindLast?, hget]
  rfl

namespace Assembly

variable {registrations : Entries (Registration σ)} {a : Assembly σ}

theorem map_bindLast? (h : a.apis = Entries.ofPairs registrations) :
    a.modules.map (bindLast? registrations a.parsers) =
      (a.apis.map fun entry => entry.2.bind a.parsers).map some := by
  rw [modules, Entries.keys, List.map_map, List.map_map]
  apply List.map_congr_left
  intro entry hentry
  exact bindLast?_of_mem (h ▸ hentry) a.parsers

theorem build_eq_ok_iff (h : a.apis = Entries.ofPairs registrations) (services : List (Service σ)) :
    a.build = .ok services ↔
      a.modules.map (bindLast? registrations a.parsers) =
        services.map fun service => some (.ok service) := by
  show _ ↔ _ = services.map (some ∘ Except.ok)
  rw [map_bindLast? h, ← List.map_map, List.map_inj_right fun _ _ => Option.some.inj]
  exact mapM_eq_ok_iff

theorem build_eq_error_iff (h : a.apis = Entries.ofPairs registrations) (cause : BootError) :
    a.build = .error cause ↔
      ∃ before module after, a.modules = before ++ module :: after ∧
        (∀ earlier ∈ before, ∃ service,
          bindLast? registrations a.parsers earlier = some (.ok service)) ∧
        bindLast? registrations a.parsers module = some (.error cause) := by
  have hbind : ∀ entry ∈ a.apis,
      bindLast? registrations a.parsers entry.1 = some (entry.2.bind a.parsers) := by
    intro entry hentry
    exact bindLast?_of_mem (h ▸ hentry) a.parsers
  have hbuild : a.build = a.apis.mapM fun entry => entry.2.bind a.parsers := rfl
  rw [hbuild, mapM_eq_error_iff]
  constructor
  · rintro ⟨before, entry, after, hapis, hbefore, hentry⟩
    refine ⟨before.map Prod.fst, entry.1, after.map Prod.fst, ?_, ?_, ?_⟩
    · rw [modules, hapis, Entries.keys, List.map_append, List.map_cons]
    · intro earlier hearlier
      obtain ⟨other, hother, rfl⟩ := List.mem_map.1 hearlier
      obtain ⟨service, hservice⟩ := hbefore other hother
      rw [hbind other (by simp [hapis, hother]), hservice]
      exact ⟨service, rfl⟩
    · rw [hbind entry (by simp [hapis]), hentry]
  · rintro ⟨before, module, after, hmodules, hbefore, hmodule⟩
    obtain ⟨first, rest, hapis, rfl, hrest⟩ := List.map_eq_append_iff.1 hmodules
    obtain ⟨entry, last, rfl, rfl, -⟩ := List.map_eq_cons_iff.1 hrest
    refine ⟨first, entry, last, hapis, ?_, ?_⟩
    · intro other hother
      obtain ⟨service, hservice⟩ := hbefore other.1 (List.mem_map_of_mem hother)
      rw [hbind other (by simp [hapis, hother])] at hservice
      exact ⟨service, Option.some.inj hservice⟩
    · rw [hbind entry (by simp [hapis])] at hmodule
      exact Option.some.inj hmodule

/-- The assembly that steps make from the start. -/
def boot (settings : Settings) (steps : List (BootStep σ)) : Assembly σ := run { settings } steps

/--
**Booting**: after any steps the modules stand in the order of their first registrations, each of
them once, and steps that failed have left nothing.  What is built are the services of the modules,
each from its last registration and with all the parsers; or else there is the error of the first
module that has none.
-/
theorem boot_builds (settings : Settings) (steps : List (BootStep σ)) :
    let a := boot settings steps
    let registrations := steps.filterMap (BootStep.registration? settings)
    a.modules = (registrations.map Prod.fst).eraseDups ∧ a.modules.Nodup ∧
    a.parsers = addParsers {} steps ∧
    (∀ s cause, BootStep.attempt a s = .error cause ↔ s.failure? = some cause) ∧
    a = boot settings (steps.filter fun s => s.failure?.isNone) ∧
    (∀ services, a.build = .ok services ↔
      a.modules.map (bindLast? registrations a.parsers) =
        services.map fun service => some (.ok service)) ∧
    ∀ cause, a.build = .error cause ↔
      ∃ before module after, a.modules = before ++ module :: after ∧
        (∀ earlier ∈ before, ∃ service,
          bindLast? registrations a.parsers earlier = some (.ok service)) ∧
        bindLast? registrations a.parsers module = some (.error cause) := by
  intro a registrations
  have hrun : a = _ := run_eq { settings } steps
  have hapis : a.apis = Entries.ofPairs registrations := by
    rw [hrun]
    rfl
  have hmodules : a.modules = Entries.keys (Entries.ofPairs registrations) := by
    rw [modules, hapis]
  refine ⟨?_, ?_, ?_, BootStep.attempt_eq_error_iff a, (run_filter _ steps).symm,
    build_eq_ok_iff hapis, build_eq_error_iff hapis⟩
  · rw [hmodules, Entries.keys_ofPairs]
    rfl
  · rw [hmodules]
    exact Entries.distinct_ofPairs registrations
  · rw [hrun]

example (settings : Settings) (handlers : Handlers σ) (old new : Definition)
    (cause : DefinitionError) :
    (boot settings
      [.api "shop" handlers old none, .file "crm" handlers (.error cause) none,
        .api "users" handlers old none, .api "shop" handlers new (some "store")]).apis.map
      (fun entry => (entry.1, entry.2.mount.prefixPath)) =
      [("shop", "store"), ("users", "users")] := rfl

end Assembly

end Switchboard
