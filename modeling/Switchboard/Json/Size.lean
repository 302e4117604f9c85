import Switchboard.Json.Basic

/-!
# The size of a value

`Json.size` counts the parts of a value, the characters of its strings among them. Everything
inside a value is smaller than the value, which is what recursion into values rests on.
-/

namespace Switchboard

namespace Json

mutual
/-- The number of parts of a value. -/
def size : Json → Nat
  | .null => 1
  | .bool _ => 1
  | .number _ => 1
  | .string s => s.toList.length + 1
  | .array items => sizeItems items + 1
  | .object members => sizeMembers members + 1

/-- The number of parts of the items of an array. -/
def sizeItems : List Json → Nat
  | [] => 0
  | item :: rest => size item + sizeItems rest

/-- The number of parts of the members of an object. -/
def sizeMembers : List (String × Json) → Nat
  | [] => 0
  | (_, value) :: rest => size value + sizeMembers rest
end

theorem size_le_sizeItems {item : Json} {items : List Json} (h : item ∈ items) :
    item.size ≤ sizeItems items := by
  induction items with
  | nil => cases h
  | cons head rest ih =>
    simp only [sizeItems]
    rcases List.mem_cons.1 h with rfl | h
    · omega
    · have := ih h; omega

theorem size_le_sizeMembers {entry : String × Json} {members : List (String × Json)}
    (h : entry ∈ members) : entry.2.size ≤ sizeMembers members := by
  induction members with
  | nil => cases h
  | cons head rest ih =>
    obtain ⟨key, value⟩ := head
    simp only [sizeMembers]
    rcases List.mem_cons.1 h with rfl | h
    · exact Nat.le_add_right _ _
    · have := ih h; omega

/-- An item is smaller than its array. -/
theorem size_lt_of_mem_array {item : Json} {items : List Json} (h : item ∈ items) :
    item.size < (Json.array items).size := by
  have := size_le_sizeItems h
  simp only [size]
  omega

/-- The value of a member is smaller than its object. -/
theorem size_lt_of_mem_object {entry : String × Json} {members : List (String × Json)}
    (h : entry ∈ members) : entry.2.size < (Json.object members).size := by
  have := size_le_sizeMembers h
  simp only [size]
  omega

end Json

end Switchboard
