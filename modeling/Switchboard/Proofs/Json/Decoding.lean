import Switchboard.Proofs.Except
import Switchboard.Json.Decode

/-!
# Reading back what was written

`Json.Reads decode json a` says that a decoder finds exactly `a` in a value.  It passes
from items to lists and maps of them (`Reads.list`, `Reads.map`).

A record is written as the object of its parts that are there, and read by a fold that
sets one part after another.  The parts that are absent are not written, so each of them
has to be what the fold starts from.  `foldlM_parts_required` and `foldlM_parts_optional`
read one part and go on with the rest.
-/

namespace Switchboard

namespace Json

variable {α δ : Type}

/-- The decoder finds exactly this in the value, and the value is there. -/
structure Reads (decode : Json → Decoded α) (json : Json) (a : α) : Prop where
  decode_eq : decode json = .ok a
  notNull : json.isNull = false

namespace Reads

variable {decode : Json → Decoded α}

theorem optional {json : Json} {a : α} (h : Reads decode json a) :
    decodeOptional decode json = .ok (some a) := by
  rw [decodeOptional, h.notNull, if_neg Bool.false_ne_true, h.decode_eq]
  rfl

theorem string (s : String) : Reads decodeString (.string s) s := ⟨rfl, rfl⟩

theorem list (write : α → Json) {items : List α}
    (h : ∀ a ∈ items, Reads decode (write a) a) :
    Reads (decodeList decode) (.array (items.map write)) items where
  decode_eq := by
    rw [decodeList]
    induction items with
    | nil => rfl
    | cons a rest ih =>
        rw [List.map_cons, List.mapM_cons, (h a List.mem_cons_self).decode_eq,
          ih fun b hb => h b (List.mem_cons_of_mem a hb)]
        rfl
  notNull := rfl

theorem map (write : α → Json) {entries : Entries α}
    (h : ∀ entry ∈ entries, Reads decode (write entry.2) entry.2) :
    Reads (decodeMap decode) (.object (entries.map fun (key, a) => (key, write a))) entries where
  decode_eq := by
    rw [decodeMap]
    induction entries with
    | nil => rfl
    | cons entry rest ih =>
        rw [List.map_cons, decodeMembers, (h entry List.mem_cons_self).decode_eq,
          ih fun other hother => h other (List.mem_cons_of_mem entry hother)]
        rfl
  notNull := rfl

end Reads

theorem decodeUnsigned_ofInt {bits n : Nat} (h : n < Nat.pow 2 bits) :
    decodeUnsigned bits (.ofInt n) = .ok n := by
  have hbound : (0 : Int) ≤ n ∧ (n : Int) ≤ (Nat.pow 2 bits : Nat) - 1 := by omega
  rw [decodeUnsigned, ofInt, decodeInteger, if_pos hbound]
  rfl

theorem lt_of_decodeUnsigned {bits n : Nat} {value : Json}
    (h : decodeUnsigned bits value = .ok n) : n < Nat.pow 2 bits := by
  obtain ⟨k, hk, rfl⟩ := exists_of_map_eq_ok h
  unfold decodeInteger at hk
  split at hk
  · split at hk
    · obtain rfl := Except.ok.inj hk
      omega
    · simp at hk
  · simp at hk

/-- The members that were decoded have the names of the object's. -/
theorem keys_of_decodeMap {decode : Json → Decoded α} {value : Json} {entries : Entries α}
    (h : decodeMap decode value = .ok entries) : entries.keys = value.members.keys := by
  cases value with
  | object members =>
      rw [decodeMap] at h
      induction members generalizing entries with
      | nil =>
          obtain rfl := Except.ok.inj h
          rfl
      | cons member rest ih =>
          obtain ⟨first, -, h⟩ := exists_of_bind_eq_ok h
          obtain ⟨others, hothers, h⟩ := exists_of_bind_eq_ok h
          obtain rfl := Except.ok.inj h
          exact congrArg (member.1 :: ·) (ih hothers)
  | null | bool | number | string | array => simp [decodeMap] at h

/-- Every member that was decoded came from some value. -/
theorem exists_of_decodeMap {decode : Json → Decoded α} {value : Json} {entries : Entries α}
    (h : decodeMap decode value = .ok entries) {entry : String × α} (hentry : entry ∈ entries) :
    ∃ json, decode json = .ok entry.2 := by
  cases value with
  | object members =>
      rw [decodeMap] at h
      induction members generalizing entries with
      | nil =>
          obtain rfl := Except.ok.inj h
          simp at hentry
      | cons member rest ih =>
          obtain ⟨first, hfirst, h⟩ := exists_of_bind_eq_ok h
          obtain ⟨others, hothers, h⟩ := exists_of_bind_eq_ok h
          obtain rfl := Except.ok.inj h
          rcases List.mem_cons.1 hentry with rfl | hrest
          · exact ⟨member.2, hfirst⟩
          · exact ih hrest hothers
  | null | bool | number | string | array => simp [decodeMap] at h

/-! ## Records part by part -/

/-- The members of a record that are there. -/
def parts (members : List (String × Option Json)) : List (String × Json) :=
  members.filterMap fun (key, part) => part.map fun v => (key, v)

theorem ofOptional_eq (members : List (String × Option Json)) :
    ofOptional members = .object (parts members) := rfl

variable {put : δ → String × Json → Decoded δ} {key : String}
  {rest : List (String × Option Json)}

theorem foldlM_parts_required {v : Json} {d d' : δ} (h : put d (key, v) = .ok d') :
    (parts ((key, some v) :: rest)).foldlM put d = (parts rest).foldlM put d' := by
  have hparts : parts ((key, some v) :: rest) = (key, v) :: parts rest := rfl
  rw [hparts, List.foldlM_cons, h]
  rfl

/-- A part that is there is read, and one that is not is left as it was. -/
theorem foldlM_parts_optional {write : α → Json} {part : Option Json} {x : Option α} {d : δ}
    (read : Json → Decoded (Option α)) (set : Option α → δ) (hpart : part = x.map write)
    (hread : ∀ a, x = some a → read (write a) = .ok (some a))
    (hput : ∀ v, put d (key, v) = read v >>= fun y => return set y) (hnone : d = set none) :
    (parts ((key, part) :: rest)).foldlM put d = (parts rest).foldlM put (set x) := by
  rw [hpart]
  cases x with
  | none =>
      rw [← hnone]
      rfl
  | some a =>
      refine foldlM_parts_required ?_
      rw [hput, hread a rfl]
      rfl

end Json

end Switchboard
