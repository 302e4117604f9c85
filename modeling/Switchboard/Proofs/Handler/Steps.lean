import Switchboard.Handler.Run
import Switchboard.Proofs.Http.Headers

/-!
# The steps of a run

What a run does to the response is a sequence of steps: a status, a header or a body
is set, or the body is taken.  `Run.trace` follows a run and writes the steps down, and
carrying a run out is the same as taking its steps one after another (`Run.exec_eq`).
Any steps may come of a run, in any order (`Run.trace_ofSteps`).

What the steps leave behind can be told without taking them.  Each part of the response
is as the last step that touched it has left it (`read_foldl`): the status and each
header as they were last set, and the body as it was last set unless it has been taken
since.  The headers stand in the order in which they were last set (`mirrors_foldl`).
-/

namespace Switchboard

/-- What a handler does to the response. -/
inductive Step where
  | setStatus (status : Nat)
  | setHeader (name value : String)
  | setBody (body : Json)
  /-- Takes the body out of the response. -/
  | takeBody

namespace Step

/-- The response after the step. -/
def apply (draft : Draft) : Step → Draft
  | setStatus status => { draft with status }
  | setHeader name value => { draft with headers := draft.headers.replace name value }
  | setBody body => { draft with body := some body }
  | takeBody => { draft with body := none }

/-- The status that the step sets. -/
def status? : Step → Option Nat
  | setStatus status => some status
  | _ => none

/-- The value that the step sets for a header. -/
def header? (name : String) : Step → Option String
  | setHeader other value =>
    if Text.lowerCase other = Text.lowerCase name then some value else none
  | _ => none

/-- The header that the step sets, under its name in lower case. -/
def set? : Step → Option (String × String)
  | setHeader name value => some (Text.lowerCase name, value)
  | _ => none

/-- The body that the step leaves, where it sets or takes one. -/
def body? : Step → Option (Option Json)
  | setBody body => some (some body)
  | takeBody => some none
  | _ => none

end Step

/-- Steps in the order in which they are taken. -/
abbrev Steps := List Step

namespace Steps

/-- The last status set, or 200. -/
def lastStatus (steps : Steps) : Nat := (steps.filterMap Step.status?).getLast?.getD 200

/-- The last value set for a header. -/
def lastHeader? (steps : Steps) (name : String) : Option String :=
  (steps.filterMap (Step.header? name)).getLast?

/-- The headers that are set, one after another. -/
def headerSets (steps : Steps) : List (String × String) := steps.filterMap Step.set?

/-- The last body set, unless it was taken since. -/
def pendingBody (steps : Steps) : Option Json := (steps.filterMap Step.body?).getLast?.getD none

/-- A part of the response that a step sets or leaves alone is as it was last set. -/
theorem read_foldl {α : Type} (read : Draft → α) (write? : Step → Option α)
    (h : ∀ draft step, read (Step.apply draft step) = (write? step).getD (read draft))
    (steps : Steps) (draft : Draft) :
    read (steps.foldl Step.apply draft) =
      (steps.filterMap write?).getLast?.getD (read draft) := by
  induction steps generalizing draft with
  | nil => rfl
  | cons step steps ih =>
      rw [List.foldl_cons, ih, h]
      cases hwrite : write? step with
      | none => rw [List.filterMap_cons_none hwrite, Option.getD_none]
      | some value =>
          rw [List.filterMap_cons_some hwrite, List.getLast?_cons, Option.getD_some,
            Option.getD_some]

theorem status_foldl (steps : Steps) : (steps.foldl Step.apply {}).status = steps.lastStatus :=
  read_foldl Draft.status Step.status? (fun draft step => by cases step <;> rfl) steps {}

theorem body_foldl (steps : Steps) : (steps.foldl Step.apply {}).body = steps.pendingBody :=
  read_foldl Draft.body Step.body? (fun draft step => by cases step <;> rfl) steps {}

theorem getAll_headers_foldl (steps : Steps) (name : String) :
    (steps.foldl Step.apply {}).headers.getAll name = (steps.lastHeader? name).toList := by
  -- what is read of a header is the list of its values, and a step that sets one leaves only that
  have hread := read_foldl (fun draft => draft.headers.getAll name)
    (fun step => (step.header? name).map fun value => [value]) (fun draft step => by
      cases step with
      | setHeader other value =>
          rw [Step.apply, Headers.getAll_replace, Step.header?]
          split <;> rfl
      | setStatus | setBody | takeBody => rfl) steps {}
  rw [hread, lastHeader?, ← List.map_filterMap, List.getLast?_map]
  cases (steps.filterMap (Step.header? name)).getLast? with
  | none => rfl
  | some value => rfl

/-- A step leaves the headers as they were set before, and then by itself. -/
theorem mirrors_apply {draft : Draft} {sets : List (String × String)}
    (h : draft.headers.Mirrors sets) (step : Step) :
    (step.apply draft).headers.Mirrors (sets ++ step.set?.toList) := by
  cases step with
  | setHeader name value => exact h.replace name value
  | setStatus | setBody | takeBody => simpa [Step.apply, Step.set?] using h

/-- Steps leave the headers as they were last set. -/
theorem mirrors_foldl (steps : Steps) {draft : Draft} {sets : List (String × String)}
    (h : draft.headers.Mirrors sets) :
    (steps.foldl Step.apply draft).headers.Mirrors (sets ++ steps.headerSets) := by
  induction steps generalizing draft sets with
  | nil => simpa [headerSets] using h
  | cons step steps ih =>
      have hsets : sets ++ headerSets (step :: steps) =
          sets ++ step.set?.toList ++ headerSets steps := by
        rw [headerSets, List.append_assoc]
        cases hstep : step.set? with
        | none => simp [headerSets, hstep]
        | some entry => simp [headerSets, hstep]
      rw [List.foldl_cons, hsets]
      exact ih (mirrors_apply h step)

end Steps

/-- The steps of a run, how it ends and the store that it leaves. -/
structure Trace (σ : Type) where
  steps : Steps
  outcome : Outcome
  store : σ

/-- The steps of a run that begins with one more step. -/
def Trace.after {σ : Type} (t : Trace σ) (step : Step) : Trace σ :=
  { t with steps := step :: t.steps }

namespace Run

variable {σ : Type}

/-- Follows a run from a store and the body set so far. -/
def trace : Run σ → σ → Option Json → Trace σ
  | done outcome, store, _ => ⟨[], outcome, store⟩
  | setStatus status next, store, body => (next.trace store body).after (.setStatus status)
  | setHeader name value next, store, body =>
    (next.trace store body).after (.setHeader name value)
  | setBody body next, store, _ => (next.trace store (some body)).after (.setBody body)
  | takeBody next, store, body => ((next body).trace store none).after .takeBody
  | readStore next, store, body => (next store).trace store body
  | writeStore store next, _, body => next.trace store body

/-- Carrying out a run is taking its steps. -/
theorem exec_eq (run : Run σ) (store : σ) (draft : Draft) :
    run.exec store draft =
      ((run.trace store draft.body).outcome, (run.trace store draft.body).store,
        (run.trace store draft.body).steps.foldl Step.apply draft) := by
  induction run generalizing store draft with
  | done outcome => rfl
  | setStatus status next ih => exact ih store _
  | setHeader name value next ih => exact ih store _
  | setBody value next ih => exact ih store _
  | takeBody next ih => exact ih draft.body store _
  | readStore next ih => exact ih store store draft
  | writeStore other next ih => exact ih other draft

/-- The run that takes the given steps and ends so. -/
def ofSteps (outcome : Outcome) : Steps → Run σ
  | [] => done outcome
  | .setStatus status :: rest => setStatus status (ofSteps outcome rest)
  | .setHeader name value :: rest => setHeader name value (ofSteps outcome rest)
  | .setBody body :: rest => setBody body (ofSteps outcome rest)
  | .takeBody :: rest => takeBody fun _ => ofSteps outcome rest

/-- Every sequence of steps is that of some run. -/
theorem trace_ofSteps (outcome : Outcome) (steps : Steps) (store : σ) (body : Option Json) :
    (ofSteps outcome steps).trace store body = ⟨steps, outcome, store⟩ := by
  induction steps generalizing body with
  | nil => rfl
  | cons step steps ih => cases step <;> simp [ofSteps, trace, Trace.after, ih]

end Run

end Switchboard
