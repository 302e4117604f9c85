/-!
# Computations that may fail

Reading a document and binding it are both chains of steps of which the first that
fails decides.  A chain that comes to an end has passed every step
(`exists_of_bind_eq_ok`), and a traversal that comes to an end every item (`mapM_ok`,
`exists_mapM_eq_ok_iff`); one that does not has the error of the first item that fails
(`mapM_eq_error_iff`).
What each step of a fold preserves holds at its end (`foldlM_invariant`).
-/

namespace Switchboard

variable {ε α β : Type}

theorem exists_of_bind_eq_ok {x : Except ε α} {f : α → Except ε β} {b : β}
    (h : x >>= f = .ok b) : ∃ a, x = .ok a ∧ f a = .ok b := by
  cases x with
  | error cause => exact absurd h (by simp [bind, Except.bind])
  | ok a => exact ⟨a, rfl, h⟩

theorem error_or_exists_of_bind_eq_error {x : Except ε α} {f : α → Except ε β} {e : ε}
    (h : x >>= f = .error e) : x = .error e ∨ ∃ a, x = .ok a ∧ f a = .error e := by
  cases x with
  | error cause => exact .inl (by rw [Except.error.inj h])
  | ok a => exact .inr ⟨a, rfl, h⟩

theorem exists_of_map_eq_ok {x : Except ε α} {f : α → β} {b : β} (h : x.map f = .ok b) :
    ∃ a, x = .ok a ∧ f a = b := by
  cases x with
  | error cause => exact absurd h (by simp [Except.map])
  | ok a => exact ⟨a, rfl, Except.ok.inj h⟩

theorem exists_map_eq_ok_iff {x : Except ε α} {f : α → β} :
    (∃ b, x.map f = .ok b) ↔ ∃ a, x = .ok a := by
  cases x with
  | error cause => simp [Except.map]
  | ok a => simp [Except.map]

theorem map_eq_error_iff {x : Except ε α} {f : α → β} {e : ε} :
    x.map f = .error e ↔ x = .error e := by
  cases x with
  | error cause => simp [Except.map]
  | ok a => simp [Except.map]

/-- A traversal that succeeds has met every item once, in order; `key` is what a result remembers of
its item. -/
theorem mapM_ok {f : α → Except ε β} {key : β → α} (hkey : ∀ x y, f x = .ok y → key y = x)
    {xs : List α} {ys : List β} (h : xs.mapM f = .ok ys) :
    ys.map key = xs ∧ ∀ y ∈ ys, f (key y) = .ok y := by
  induction xs generalizing ys with
  | nil =>
      obtain rfl : [] = ys := Except.ok.inj h
      simp
  | cons x xs ih =>
      rw [List.mapM_cons] at h
      obtain ⟨y, hfirst, h⟩ := exists_of_bind_eq_ok h
      obtain ⟨rest, hrest, h⟩ := exists_of_bind_eq_ok h
      obtain rfl : y :: rest = ys := Except.ok.inj h
      obtain ⟨hkeys, hall⟩ := ih hrest
      have hy := hkey x y hfirst
      refine ⟨by rw [List.map_cons, hy, hkeys], ?_⟩
      intro z hz
      rcases List.mem_cons.1 hz with rfl | hz
      · rw [hy, hfirst]
      · exact hall z hz

theorem mapM_eq_ok_iff {f : α → Except ε β} {xs : List α} {ys : List β} :
    xs.mapM f = .ok ys ↔ xs.map f = ys.map .ok := by
  induction xs generalizing ys with
  | nil =>
      cases ys with
      | nil => exact ⟨fun _ => rfl, fun _ => rfl⟩
      | cons y ys => simp [pure, Except.pure]
  | cons x xs ih =>
      rw [List.mapM_cons, List.map_cons]
      constructor
      · intro h
        obtain ⟨y, hfirst, h⟩ := exists_of_bind_eq_ok h
        obtain ⟨rest, hrest, h⟩ := exists_of_bind_eq_ok h
        obtain rfl : y :: rest = ys := Except.ok.inj h
        rw [hfirst, ih.1 hrest, List.map_cons]
      · intro h
        cases ys with
        | nil => simp at h
        | cons y ys =>
            rw [List.map_cons, List.cons.injEq] at h
            rw [h.1, ih.2 h.2]
            rfl

theorem exists_mapM_eq_ok_iff {f : α → Except ε β} {xs : List α} :
    (∃ ys, xs.mapM f = .ok ys) ↔ ∀ x ∈ xs, ∃ y, f x = .ok y := by
  constructor
  · rintro ⟨ys, hys⟩ x hx
    have hmem : f x ∈ ys.map .ok := mapM_eq_ok_iff.1 hys ▸ List.mem_map_of_mem hx
    obtain ⟨y, -, hy⟩ := List.mem_map.1 hmem
    exact ⟨y, hy.symm⟩
  · intro hall
    induction xs with
    | nil => exact ⟨[], rfl⟩
    | cons x xs ih =>
        obtain ⟨y, hy⟩ := hall x List.mem_cons_self
        obtain ⟨ys, hys⟩ := ih fun z hz => hall z (List.mem_cons_of_mem x hz)
        refine ⟨y :: ys, ?_⟩
        rw [mapM_eq_ok_iff] at hys ⊢
        rw [List.map_cons, List.map_cons, hy, hys]

theorem mapM_error_of_first {f : α → Except ε β} {before : List α} {x : α} {e : ε}
    (hbefore : ∀ y ∈ before, ∃ b, f y = .ok b) (hx : f x = .error e) (after : List α) :
    (before ++ x :: after).mapM f = .error e := by
  induction before with
  | nil =>
      rw [List.nil_append, List.mapM_cons, hx]
      rfl
  | cons y before ih =>
      obtain ⟨b, hb⟩ := hbefore y List.mem_cons_self
      rw [List.cons_append, List.mapM_cons, hb,
        ih fun z hz => hbefore z (List.mem_cons_of_mem _ hz)]
      rfl

/-- A traversal fails with the error of the first item that fails. -/
theorem mapM_eq_error_iff {f : α → Except ε β} {xs : List α} {e : ε} :
    xs.mapM f = .error e ↔ ∃ before x after, xs = before ++ x :: after ∧
      (∀ y ∈ before, ∃ b, f y = .ok b) ∧ f x = .error e := by
  constructor
  · intro h
    induction xs with
    | nil => exact absurd h (by simp [pure, Except.pure])
    | cons first xs ih =>
        rw [List.mapM_cons] at h
        rcases error_or_exists_of_bind_eq_error h with hfirst | ⟨b, hfirst, h⟩
        · exact ⟨[], first, xs, rfl, by simp, hfirst⟩
        · rcases error_or_exists_of_bind_eq_error h with hrest | ⟨rest, -, h⟩
          · obtain ⟨before, x, after, rfl, hbefore, hx⟩ := ih hrest
            refine ⟨first :: before, x, after, rfl, ?_, hx⟩
            intro y hy
            rcases List.mem_cons.1 hy with rfl | hy
            · exact ⟨b, hfirst⟩
            · exact hbefore y hy
          · exact absurd h (by simp [pure, Except.pure])
  · rintro ⟨before, x, after, rfl, hbefore, hx⟩
    exact mapM_error_of_first hbefore hx after

theorem foldlM_invariant {step : β → α → Except ε β} (holds : β → Prop) {xs : List α}
    (hstep : ∀ acc, ∀ x ∈ xs, ∀ next, holds acc → step acc x = .ok next → holds next)
    {acc result : β} (hacc : holds acc) (h : xs.foldlM step acc = .ok result) :
    holds result := by
  induction xs generalizing acc with
  | nil =>
      obtain rfl := Except.ok.inj h
      exact hacc
  | cons x xs ih =>
      rw [List.foldlM_cons] at h
      obtain ⟨next, hnext, h⟩ := exists_of_bind_eq_ok h
      have hholds : holds next := hstep acc x List.mem_cons_self next hacc hnext
      exact ih (fun acc y hy => hstep acc y (List.mem_cons_of_mem x hy)) hholds h

end Switchboard
