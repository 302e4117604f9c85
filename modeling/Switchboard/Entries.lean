/-!
# Ordered maps

`Entries α` is a map from names to values that remembers the order in which its names came: the
members of a JSON object, the fields of a schema, the routes of a document. A value set under a name
that is already there replaces the old one and keeps its place; a new name goes to the end.

The operations look at the first entry of a name only, and none of them makes a second one.
-/

namespace Switchboard

/-- Names with their values, in order. -/
abbrev Entries (α : Type u) := List (String × α)

namespace Entries

variable {α : Type u}

/-- The names in order. -/
def keys (m : Entries α) : List String := m.map (·.1)

/-- The value of a name. -/
def get? : Entries α → String → Option α
  | [], _ => none
  | (k, v) :: rest, key => if k = key then some v else get? rest key

/-- The name has a value. -/
def has (m : Entries α) (key : String) : Bool := (get? m key).isSome

/-- Gives the name a value: in the place of its old one, or at the end. -/
def set : Entries α → String → α → Entries α
  | [], key, value => [(key, value)]
  | (k, v) :: rest, key, value =>
    if k = key then (key, value) :: rest else (k, v) :: set rest key value

/-- Sets every entry of the second map in the first, in order. -/
def merge (m n : Entries α) : Entries α := n.foldl (fun acc entry => set acc entry.1 entry.2) m

/-- The map of a list of pairs: a repeated name keeps its first place and its last value. -/
def ofPairs (pairs : List (String × α)) : Entries α := merge [] pairs

/-- No name stands twice. -/
def Distinct (m : Entries α) : Prop := m.keys.Nodup

@[simp] theorem get?_nil (key : String) : get? ([] : Entries α) key = none := rfl

theorem get?_set (m : Entries α) (key : String) (value : α) (other : String) :
    get? (set m key value) other = if key = other then some value else get? m other := by
  induction m with
  | nil => simp [set, get?]
  | cons entry rest ih =>
    obtain ⟨k, v⟩ := entry
    by_cases h : k = key
    · subst h; by_cases h' : k = other <;> simp [set, get?, h']
    · by_cases h' : k = other
      · subst h'; simp [set, get?, h, Ne.symm h]
      · simp [set, get?, h, h', ih]

theorem get?_isSome_iff {m : Entries α} {key : String} :
    (get? m key).isSome ↔ key ∈ keys m := by
  induction m with
  | nil => simp [keys]
  | cons entry rest ih =>
    obtain ⟨k, v⟩ := entry
    by_cases h : k = key
    · simp [get?, keys, h]
    · simp [get?, keys, h, Ne.symm h] at ih ⊢; exact ih

theorem keys_set (m : Entries α) (key : String) (value : α) :
    keys (set m key value) = if key ∈ keys m then keys m else keys m ++ [key] := by
  induction m with
  | nil => simp [set, keys]
  | cons entry rest ih =>
    obtain ⟨k, v⟩ := entry
    by_cases h : k = key
    · simp [set, keys, h]
    · simp only [keys] at ih
      by_cases h' : key ∈ rest.map (·.1) <;> simp_all [set, keys, Ne.symm h]

theorem Distinct.set {m : Entries α} (h : Distinct m) (key : String) (value : α) :
    Distinct (Entries.set m key value) := by
  unfold Distinct at h ⊢
  rw [keys_set]
  split
  · exact h
  · rw [List.nodup_append]
    exact ⟨h, by simp, by rintro a ha b hb rfl; simp_all⟩

theorem Distinct.merge {m : Entries α} (h : Distinct m) (n : Entries α) :
    Distinct (Entries.merge m n) := by
  induction n generalizing m with
  | nil => exact h
  | cons entry rest ih => exact ih (h.set entry.1 entry.2)

/-- A map made from pairs holds no name twice. -/
theorem distinct_ofPairs (pairs : List (String × α)) : Distinct (ofPairs pairs) :=
  Distinct.merge (by simp [Distinct, keys]) pairs

end Entries

end Switchboard
