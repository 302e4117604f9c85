import Switchboard.Entries
import Switchboard.Proofs.Sequence

/-!
# What a merged map holds

Setting all entries of one map in another leaves every name with the value of its
last entry there (`get?_merge`), and new names in the order of their first entries
(`keys_merge`).  The parts of a request are merged over each other in this way, and a
list of pairs may name a key more than once on the way.  What survives all of this is
the property `Gives`: a name is there, and whichever of its entries is taken, the
value is the same.
-/

namespace Switchboard.Entries

variable {α : Type u}

/-- The map has the name, and all its entries of that name have this value. -/
def Gives (m : Entries α) (key : String) (value : α) : Prop :=
  key ∈ keys m ∧ ∀ other, (key, other) ∈ m → other = value

theorem mem_keys_of_mem {m : Entries α} {key : String} {value : α} (h : (key, value) ∈ m) :
    key ∈ keys m := List.mem_map_of_mem h

theorem exists_of_mem_keys {m : Entries α} {key : String} (h : key ∈ keys m) :
    ∃ value, (key, value) ∈ m := by
  obtain ⟨⟨k, value⟩, hmem, rfl⟩ := List.mem_map.1 h
  exact ⟨value, hmem⟩

theorem get?_eq_none_iff {m : Entries α} {key : String} : get? m key = none ↔ key ∉ keys m := by
  rw [← get?_isSome_iff, Option.not_isSome_iff_eq_none]

theorem mem_of_get?_eq_some {m : Entries α} {key : String} {value : α}
    (h : get? m key = some value) : (key, value) ∈ m := by
  induction m with
  | nil => simp at h
  | cons entry rest ih =>
      obtain ⟨k, v⟩ := entry
      rw [get?] at h
      split at h
      · rename_i hk
        obtain rfl := Option.some.inj h
        simp [hk]
      · exact List.mem_cons_of_mem _ (ih h)

theorem get?_eq_find? (m : Entries α) (key : String) :
    get? m key = (m.find? fun entry => entry.1 == key).map (·.2) := by
  induction m with
  | nil => rfl
  | cons entry rest ih =>
      obtain ⟨k, v⟩ := entry
      by_cases hk : k = key
      · simp [get?, hk]
      · simp [get?, hk, ih]

/-- From the back, the last entry of a name is found. -/
theorem get?_reverse_eq_some_iff {m : Entries α} {key : String} {value : α} :
    get? m.reverse key = some value ↔
      ∃ before after, m = before ++ (key, value) :: after ∧ key ∉ keys after := by
  rw [get?_eq_find?, Option.map_eq_some_iff]
  constructor
  · rintro ⟨⟨name, v⟩, hfound, rfl⟩
    obtain rfl : name = key := by simpa using List.find?_some hfound
    exact find?_reverse_key_eq_some_iff.1 hfound
  · intro hlast
    exact ⟨(key, value), find?_reverse_key_eq_some_iff.2 hlast, rfl⟩

theorem get?_append (m n : Entries α) (key : String) :
    get? (m ++ n) key = (get? m key).or (get? n key) := by
  induction m with
  | nil => rfl
  | cons entry rest ih =>
      obtain ⟨k, v⟩ := entry
      rw [List.cons_append, get?, get?]
      split
      · rfl
      · exact ih

/-- The last entry of the second map decides, and without one the first map does. -/
theorem get?_merge (m n : Entries α) (key : String) :
    get? (merge m n) key = (get? n.reverse key).or (get? m key) := by
  induction n generalizing m with
  | nil => rfl
  | cons entry rest ih =>
      obtain ⟨k, v⟩ := entry
      have hstep : merge m ((k, v) :: rest) = merge (set m k v) rest := rfl
      rw [hstep, ih, get?_set, List.reverse_cons, get?_append]
      cases get? rest.reverse key with
      | some w => rfl
      | none =>
          rw [Option.none_or, Option.none_or, get?]
          split
          · rfl
          · rfl

theorem keys_merge (m n : Entries α) :
    keys (merge m n) = keys m ++ ((keys n).filter (· ∉ keys m)).eraseDups := by
  rw [← foldl_addNew, keys, keys, keys, List.foldl_map]
  exact (List.foldl_hom keys fun acc entry => (keys_set acc entry.1 entry.2).symm).symm

/-- Names keep the order of their first entries. -/
theorem keys_ofPairs (pairs : Entries α) : keys (ofPairs pairs) = (keys pairs).eraseDups := by
  have hall : (keys pairs).filter (· ∉ keys ([] : Entries α)) = keys pairs := by
    simp [keys]
  rw [ofPairs, keys_merge, hall]
  rfl

theorem get?_merge_of_notMem {m n : Entries α} {key : String} (h : key ∉ keys n) :
    get? (merge m n) key = get? m key := by
  have hnone : get? n.reverse key = none := by
    rw [get?_eq_none_iff]
    simpa [keys] using h
  rw [get?_merge, hnone, Option.none_or]

theorem set_of_notMem {m : Entries α} {key : String} (h : key ∉ keys m) (value : α) :
    set m key value = m ++ [(key, value)] := by
  induction m with
  | nil => rfl
  | cons entry rest ih =>
      obtain ⟨k, v⟩ := entry
      obtain ⟨hk, hrest⟩ := not_or.1 fun hor => h (List.mem_cons.2 hor)
      rw [set, if_neg (Ne.symm hk), ih hrest, List.cons_append]

theorem set_append_cons {m : Entries α} {key : String} (h : key ∉ keys m) (old value : α)
    (n : Entries α) : set (m ++ (key, old) :: n) key value = m ++ (key, value) :: n := by
  induction m with
  | nil => rw [List.nil_append, List.nil_append, set, if_pos rfl]
  | cons entry rest ih =>
      obtain ⟨k, v⟩ := entry
      obtain ⟨hk, hrest⟩ := not_or.1 fun hor => h (List.mem_cons.2 hor)
      rw [List.cons_append, List.cons_append, set, if_neg (Ne.symm hk), ih hrest]

theorem mem_set {m : Entries α} {key name : String} {value v : α}
    (h : (name, v) ∈ set m key value) : (name, v) = (key, value) ∨ (name, v) ∈ m := by
  induction m with
  | nil => exact .inl (List.mem_singleton.1 h)
  | cons entry rest ih =>
      obtain ⟨k, w⟩ := entry
      rw [set] at h
      split at h
      · rcases List.mem_cons.1 h with heq | hrest
        · exact .inl heq
        · exact .inr (List.mem_cons_of_mem _ hrest)
      · rcases List.mem_cons.1 h with heq | hrest
        · exact .inr (heq ▸ List.mem_cons_self)
        · exact (ih hrest).imp_right (List.mem_cons_of_mem _)

/-- A merge makes no entries of its own. -/
theorem mem_merge {m n : Entries α} {key : String} {value : α} (h : (key, value) ∈ merge m n) :
    (key, value) ∈ m ∨ (key, value) ∈ n := by
  induction n generalizing m with
  | nil => exact .inl h
  | cons entry rest ih =>
      obtain ⟨k, v⟩ := entry
      rcases ih h with hset | hrest
      · rcases mem_set hset with heq | hm
        · exact .inr (heq ▸ List.mem_cons_self)
        · exact .inl hm
      · exact .inr (List.mem_cons_of_mem _ hrest)

/-! ## Giving one value -/

theorem Gives.get?_eq {m : Entries α} {key : String} {value : α} (h : Gives m key value) :
    get? m key = some value := by
  obtain ⟨hmem, hall⟩ := h
  obtain ⟨found, hfound⟩ := Option.isSome_iff_exists.1 (get?_isSome_iff.2 hmem)
  rw [hfound, hall found (mem_of_get?_eq_some hfound)]

theorem Gives.reverse {m : Entries α} {key : String} {value : α} (h : Gives m key value) :
    Gives m.reverse key value := by
  refine ⟨by simpa [keys] using h.1, fun other hother => h.2 other ?_⟩
  simpa using hother

/-- What the map on top gives is there after the merge. -/
theorem Gives.get?_merge {n : Entries α} {key : String} {value : α} (h : Gives n key value)
    (m : Entries α) : get? (merge m n) key = some value := by
  rw [Entries.get?_merge, h.reverse.get?_eq, Option.some_or]

/-- Where no name stands twice, a name has one value. -/
theorem Distinct.gives {m : Entries α} (hm : Distinct m) {key : String} {value : α}
    (h : get? m key = some value) : Gives m key value := by
  have hmem := mem_of_get?_eq_some h
  refine ⟨mem_keys_of_mem hmem, fun other hother => ?_⟩
  clear h
  induction m with
  | nil => simp at hmem
  | cons entry rest ih =>
      unfold Distinct keys at hm
      rw [List.map_cons, List.nodup_cons] at hm
      rcases List.mem_cons.1 hmem with rfl | hin
      · rcases List.mem_cons.1 hother with heq | hin'
        · exact (Prod.mk.inj heq).2
        · exact absurd (mem_keys_of_mem hin') hm.1
      · rcases List.mem_cons.1 hother with rfl | hin'
        · exact absurd (mem_keys_of_mem hin) hm.1
        · exact ih hm.2 hin hin'

theorem Distinct.get?_of_mem {m : Entries α} (hm : Distinct m) {key : String} {value : α}
    (h : (key, value) ∈ m) : get? m key = some value := by
  obtain ⟨found, hfound⟩ := Option.isSome_iff_exists.1 (get?_isSome_iff.2 (mem_keys_of_mem h))
  rw [hfound, (hm.gives hfound).2 value h]

theorem Gives.map {β : Type v} {m : Entries α} {key : String} {value : α}
    (h : Gives m key value) (f : α → β) :
    Gives (m.map fun entry => (entry.1, f entry.2)) key (f value) := by
  obtain ⟨hmem, hall⟩ := h
  obtain ⟨found, hfound⟩ := exists_of_mem_keys hmem
  refine ⟨List.mem_map.2 ⟨(key, f found), List.mem_map_of_mem hfound, rfl⟩, fun other hother => ?_⟩
  obtain ⟨⟨k, v⟩, hv, heq⟩ := List.mem_map.1 hother
  obtain ⟨rfl, rfl⟩ := Prod.mk.inj heq
  rw [hall v hv]

end Switchboard.Entries
