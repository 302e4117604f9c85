import Switchboard.Proofs.Number.Intervals
import Switchboard.Proofs.Schema.PlainText
import Switchboard.Proofs.Text.Blank

/-!
# Integers of 64 bits from their texts

An integer that arrives as text is read as a double before it becomes a JSON number, so a field for
integers gives it back only as far as every integer is a double of its own: below `2 ^ 53` in
magnitude.  From there on the field gives the double nearest to the integer, and a handler that asks
for an integer of 64 bits refuses it (`shapeValue_numeral`).

Blanks in front of the text do not matter.
-/

namespace Switchboard

/-- The string of an integer in base ten, behind other characters. -/
def Json.numeral (before : List Char) (k : ℤ) : Json :=
  .string (String.ofList (before ++ intText k))

theorem FieldType.ofName_eq_int {name : String}
    (h : Text.lowerCase name = "int" ∨ Text.lowerCase name = "int64") : ofName name = .int := by
  rcases h with h | h
  · simp [ofName, h]
  · simp [ofName, h]

theorem readWhole_append {before : List Char} (h : Text.Blanks before) (cs : List Char) :
    readWhole (before ++ cs) = readWhole cs := by
  rw [readWhole, Text.trimStart_append h]
  rfl

theorem Json.isTruthy_numeral (before : List Char) (k : ℤ) :
    (Json.numeral before k).isTruthy = true := by
  simp [numeral, isTruthy, String.ofList_eq_empty_iff, intText, natText_ne_nil]

/-- The text of an integer is rounded once, and the sign goes along. -/
theorem shapeValue_numeral_eq {f : Field} (htype : f.type = .int) {before : List Char}
    (hbefore : Text.Blanks before) (registry : Registry) (k : ℤ) :
    shapeValue registry (.numeral before k) f = .ofRounded (Double.ofInt k) := by
  have htext : (Json.numeral before k).asText = .numeral before k := by
    rw [Json.asText, Json.numeral, Json.plainText, String.toList_ofList]
  rw [shapeValue_of_truthy registry _ f (Json.isTruthy_numeral before k), htype]
  dsimp only
  rw [← htext, coerceNumber_asText, Json.numeral, Json.plainText, String.toList_ofList,
    readWhole_append hbefore, readWhole_intText]
  rfl

/-- An integer of 64 bits is in the range of the doubles. -/
theorem Double.exists_ofInt {k : ℤ} (hlow : -2 ^ 63 ≤ k) (hhigh : k < 2 ^ 63) :
    ∃ x, Double.ofInt k = .finite x := by
  refine Double.exists_roundRatio Nat.one_pos ?_ _
  have hlt : k.natAbs < 2 ^ 64 := by omega
  rw [Nat.cast_one, div_one]
  calc (k.natAbs : ℚ) < ((2 ^ 64 : ℕ) : ℚ) := by exact_mod_cast hlt
    _ = 2 ^ (64 : ℤ) := by norm_num
    _ ≤ 2 ^ (1023 : ℤ) := zpow_le_zpow_right₀ (by norm_num) (by norm_num)

theorem Json.decodeSigned_ofInt {k : ℤ} (hlow : -2 ^ 63 ≤ k) (hhigh : k < 2 ^ 63) :
    decodeSigned 64 (.ofInt k) = .ok k := by
  have hlow' : -(Nat.pow 2 (64 - 1) : ℤ) ≤ k := hlow
  have hhigh' : k ≤ (Nat.pow 2 (64 - 1) : ℤ) - 1 := Int.le_sub_one_of_lt hhigh
  rw [decodeSigned, ofInt, decodeInteger, if_pos ⟨hlow', hhigh'⟩]

/--
**Integers of 64 bits**: under a field for integers the text of an integer of 64 bits, behind any
blanks, becomes that integer if its magnitude is below `2 ^ 53`, and a handler gets it; otherwise it
becomes the double nearest to the integer, which a handler that asks for an integer refuses.
-/
theorem shapeValue_numeral {f : Field} {name : String} (hf : f.typeName = some name)
    (hname : Text.lowerCase name = "int" ∨ Text.lowerCase name = "int64") {before : List Char}
    (hbefore : Text.Blanks before) {k : ℤ} (hlow : -2 ^ 63 ≤ k) (hhigh : k < 2 ^ 63)
    (registry : Registry) :
    (k.natAbs < 2 ^ 53 →
      shapeValue registry (.numeral before k) f = .ofInt k ∧
        Json.decodeSigned 64 (shapeValue registry (.numeral before k) f) = .ok k) ∧
    (2 ^ 53 ≤ k.natAbs → ∃ x : Double, Double.ofInt k = .finite x ∧ x.IsNearest k ∧
      shapeValue registry (.numeral before k) f = .number (.double x) ∧
        Json.decodeSigned 64 (shapeValue registry (.numeral before k) f) =
          .error (.wrongKind (.number (.double x)) (.signed 64))) := by
  have htype : f.type = .int := by
    rw [Field.type, hf]
    exact FieldType.ofName_eq_int hname
  rw [shapeValue_numeral_eq htype hbefore]
  constructor
  · intro hsmall
    have hexact : Json.ofRounded (Double.ofInt k) = .ofInt k :=
      (Json.ofRounded_roundRatio_eq_integer_iff k).2 hsmall
    rw [hexact]
    exact ⟨rfl, Json.decodeSigned_ofInt hlow hhigh⟩
  · intro hlarge
    obtain ⟨x, hx⟩ := Double.exists_ofInt hlow hhigh
    have hdouble : Json.ofRounded (Double.ofInt k) = .number (.double x) := by
      rw [Json.ofRounded_eq_double_iff]
      obtain ⟨-, hpart⟩ := Double.isWhole_of_roundRatio_of_le hlarge hx
      exact ⟨hx, fun hboth => absurd hboth.2 (Nat.not_lt.2 hpart)⟩
    rw [hdouble]
    exact ⟨x, hx, Double.isNearest_of_ofInt hx, rfl, rfl⟩

/-- The least integer that a field keeps, behind a space and a no-break space, and the greatest
integer of 64 bits, which becomes `2 ^ 63`. -/
theorem shapeValue_numeral_extremes :
    Json.decodeSigned 64 (shapeValue {} (.numeral [' ', '\u00A0'] (-9007199254740991))
        { typeName := some "Int64" }) = .ok (-9007199254740991) ∧
      ∃ x : Double, x.IsNearest 9223372036854775807 ∧
        shapeValue {} (.numeral [] 9223372036854775807) { typeName := some "int" } =
          .number (.double x) := by
  have hblanks : Text.Blanks [' ', '\u00A0'] := by simp [Text.Blanks, Text.isBlank]
  have hkept := (@shapeValue_numeral { typeName := some "Int64" } "Int64" rfl (.inr (by decide)) _
    hblanks (-9007199254740991) (by norm_num) (by norm_num) {}).1 (by decide)
  obtain ⟨x, -, hnearest, hdouble, -⟩ := (@shapeValue_numeral { typeName := some "int" } "int" rfl
    (.inl (by decide)) _ Text.Blanks.nil 9223372036854775807 (by norm_num) (by norm_num) {}).2
    (by decide)
  exact ⟨hkept.2, x, by exact_mod_cast hnearest, hdouble⟩

/-- From `2 ^ 53` on the JSON integer does not come back, although it is a double itself; the next
one becomes its neighbour. -/
theorem shapeValue_numeral_lost :
    shapeValue {} (.numeral [] 9007199254740992) { typeName := some "int64" } ≠
        .ofInt 9007199254740992 ∧
      shapeValue {} (.numeral [] 9007199254740993) { typeName := some "int64" } =
        shapeValue {} (.numeral [] 9007199254740992) { typeName := some "int64" } := by
  have htype : ({ typeName := some "int64" } : Field).type = .int := by decide
  have hsame : Double.ofInt 9007199254740993 = Double.ofInt 9007199254740992 := by decide
  rw [shapeValue_numeral_eq htype Text.Blanks.nil, shapeValue_numeral_eq htype Text.Blanks.nil,
    hsame]
  exact ⟨Json.ofRounded_roundRatio_of_le (by decide) _ _, rfl⟩

end Switchboard
