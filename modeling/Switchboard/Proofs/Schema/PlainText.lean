import Switchboard.Proofs.Number.Plain
import Switchboard.Proofs.Schema.Conformance

/-!
# Values that a field gives back from their text

A query holds texts only, so what is put into it as plain text arrives as a string
and is converted by its field.  `Field.Carries` lists the values that survive
this.  A string always does.  `null` does where the text `null` counts as no
number and no date, and a number does under a field for numbers, as long as it
comes back in the form it had: an integer below `2 ^ 53`, a double that does not
come back as an integer.  Nothing else does, a parser of one's own apart, which
may find any value in a text.

The list is complete for the values that the field leaves as they are
(`shapeValue_asText_iff`).
-/

namespace Switchboard

/-! ## What a number is read as -/

namespace Json

theorem ofRounded_eq_double_iff {r : Rounded} {x : Double} :
    ofRounded r = .number (.double x) ↔
      r = .finite x ∧ ¬ (x.isWhole = true ∧ x.wholePart < Nat.pow 2 53) := by
  cases r with
  | infinite negative => simp [ofRounded]
  | finite y =>
      by_cases h : y.isWhole = true ∧ y.wholePart < Nat.pow 2 53
      · have hinteger : ofRounded (.finite y) = .number (.integer y.truncate) :=
          if_pos (by simpa using h)
        rw [hinteger]
        constructor
        · intro heq
          simp at heq
        · rintro ⟨heq, hnot⟩
          obtain rfl := Rounded.finite.inj heq
          exact absurd h hnot
      · have hdouble : ofRounded (.finite y) = .number (.double y) :=
          if_neg (by simpa using h)
        rw [hdouble]
        constructor
        · intro heq
          injection heq with heq
          obtain rfl := Number.double.inj heq
          exact ⟨rfl, h⟩
        · rintro ⟨heq, -⟩
          rw [Rounded.finite.inj heq]

/-- A numeral without a point is read as its integer below `2 ^ 53` and never from there on. -/
theorem ofRounded_roundRatio_eq_integer_iff (n : ℤ) :
    ofRounded (Double.roundRatio (n < 0) n.natAbs 1) = .number (.integer n) ↔
      n.natAbs < Nat.pow 2 53 := by
  by_cases h : n.natAbs < Nat.pow 2 53
  · have hsigned : (if (decide (n < 0)) = true then -(n.natAbs : ℤ) else n.natAbs) = n := by
      split <;> rename_i hneg <;> simp only [decide_eq_true_eq] at hneg <;> omega
    rw [ofRounded_roundRatio_of_lt h, hsigned]
    simp [h]
  · exact ⟨fun heq => absurd heq (ofRounded_roundRatio_of_le (Nat.le_of_not_lt h) _ n),
      fun hlt => absurd hlt h⟩

end Json

/-! ## The values -/

/-- The value as it arrives in a query. -/
def Json.asText (value : Json) : Json := .string (String.ofList value.plainText)

namespace Field

/-- The field has a parser of one's own that finds the value in its plain text. -/
def ParsesBack (registry : Registry) (f : Field) (value : Json) : Prop :=
  ∃ name parser, f.type = .custom name ∧ registry.find? name = some parser ∧
    value.plainText ≠ [] ∧
    parser.parse value.asText (fun w _ => shapeValue registry w) = .parsed value

/-- The values that the field gives back from their plain text. -/
inductive Carries (registry : Registry) (f : Field) : Json → Prop where
  | string (s : String) : Carries registry f (.string s)
  | null (h : f.type = .number ∨ f.type = .int ∨ f.type = .date) : Carries registry f .null
  | integer {n : ℤ} (h : f.type = .number ∨ f.type = .int) (hn : n.natAbs < Nat.pow 2 53) :
    Carries registry f (.number (.integer n))
  | double {x : Double} (h : f.type = .number)
    (hx : ¬ (x.isWhole = true ∧ x.wholePart < Nat.pow 2 53)) :
    Carries registry f (.number (.double x))
  | wholeDouble {x : Double} (h : f.type = .int) (hx : x.isWhole = true)
    (hlarge : Nat.pow 2 53 ≤ x.wholePart) (hsmall : x.wholePart < wholeLimit) :
    Carries registry f (.number (.double x))
  | parsed {value : Json} (h : f.ParsesBack registry value) : Carries registry f value

end Field

theorem Json.isTruthy_asText_iff (value : Json) :
    value.asText.isTruthy = true ↔ value.plainText ≠ [] := by
  simp [asText, isTruthy, String.ofList_eq_empty_iff]

theorem coerceNumber_asText (read : List Char → Option Rounded) (value : Json) :
    coerceNumber read value.asText =
      match read value.plainText with | some n => .ofRounded n | none => .null := by
  have htext : value.asText.plainText = value.plainText := by
    rw [Json.asText, Json.plainText, String.toList_ofList]
  rw [← htext]
  rfl

theorem Number.plainText_ne_nil (n : Number) : n.plainText ≠ [] := by
  cases n with
  | integer n => simp [plainText, intText, natText_ne_nil]
  | double x =>
      obtain ⟨l, hprinted, htext, -⟩ := x.exists_printed_plainText
      rw [← htext, Literal.text_eq]
      simp [hprinted.whole_ne]

theorem Json.isTruthy_asText_number (n : Number) : (Json.number n).asText.isTruthy = true := by
  rw [Json.isTruthy_asText_iff, Json.plainText]
  exact n.plainText_ne_nil

/-! ### Numbers under a field for numbers -/

theorem coerceNumber_readNumber_integer_iff (n : ℤ) :
    coerceNumber readNumber (Json.number (.integer n)).asText = .number (.integer n) ↔
      n.natAbs < Nat.pow 2 53 := by
  rw [coerceNumber_asText, Json.plainText, Number.plainText, readNumber_intText]
  dsimp only
  rw [Double.ofDecimal_natural, Json.ofRounded_roundRatio_eq_integer_iff]

theorem coerceNumber_readNumber_double_iff (x : Double) :
    coerceNumber readNumber (Json.number (.double x)).asText = .number (.double x) ↔
      ¬ (x.isWhole = true ∧ x.wholePart < Nat.pow 2 53) := by
  rw [coerceNumber_asText, Json.plainText, readNumber_plainText]
  dsimp only
  rw [Json.ofRounded_eq_double_iff]
  simp

theorem coerceNumber_readWhole_integer_iff (n : ℤ) :
    coerceNumber readWhole (Json.number (.integer n)).asText = .number (.integer n) ↔
      n.natAbs < Nat.pow 2 53 := by
  rw [coerceNumber_asText, Json.plainText, Number.plainText, readWhole_intText]
  exact Json.ofRounded_roundRatio_eq_integer_iff n

theorem coerceNumber_readWhole_double_iff (x : Double) :
    coerceNumber readWhole (Json.number (.double x)).asText = .number (.double x) ↔
      x.isWhole = true ∧ Nat.pow 2 53 ≤ x.wholePart ∧ x.wholePart < wholeLimit := by
  rw [coerceNumber_asText, Json.plainText]
  by_cases hlarge : wholeLimit ≤ x.wholePart
  · obtain ⟨n, hn, hread⟩ := Double.readWhole_plainText_of_le hlarge
    have hsmall : n < Nat.pow 2 53 := lt_trans hn (by decide)
    rw [hread]
    dsimp only
    rw [Json.ofRounded_roundRatio_of_lt hsmall]
    simp [hlarge]
  · by_cases hwhole : x.isWhole = true
    · rw [Double.readWhole_plainText_of_isWhole hwhole (by omega)]
      dsimp only
      rw [Json.ofRounded_eq_double_iff]
      constructor
      · rintro ⟨-, hnot⟩
        exact ⟨hwhole, Nat.le_of_not_lt fun hlt => hnot ⟨hwhole, hlt⟩, by omega⟩
      · rintro ⟨-, hle, -⟩
        exact ⟨rfl, fun hlt => absurd hlt.2 (by omega)⟩
    · -- whatever is read is whole, and the double is not
      constructor
      · intro heq
        cases hread : readWhole (Number.plainText (.double x)) with
        | none => simp [hread] at heq
        | some r =>
            rw [hread] at heq
            obtain ⟨hr, -⟩ := Json.ofRounded_eq_double_iff.1 heq
            obtain ⟨negative, n, hround⟩ := exists_of_readWhole hread
            rw [hr] at hround
            exact absurd (Double.isWhole_of_roundRatio hround.symm) hwhole
      · exact fun h => absurd h.1 hwhole

/-! ### All values -/

variable {registry : Registry} {f : Field} {value : Json}

theorem Field.Carries.shapeValue_asText (h : f.Carries registry value)
    (hfixed : shapeValue registry value f = value) :
    shapeValue registry value.asText f = value := by
  cases h with
  | string s =>
      have htext : (Json.string s).asText = .string s := by simp [Json.asText, Json.plainText]
      rw [htext, hfixed]
  | null htype =>
      rw [shapeValue_of_truthy registry _ f (by decide)]
      rcases htype with htype | htype | htype
      · rw [htype]
        rfl
      · rw [htype]
        rfl
      · rw [htype]
        rfl
  | @integer n htype hn =>
      rw [shapeValue_of_truthy registry _ f (Json.isTruthy_asText_number _)]
      rcases htype with htype | htype
      · rw [htype]
        exact (coerceNumber_readNumber_integer_iff n).2 hn
      · rw [htype]
        exact (coerceNumber_readWhole_integer_iff n).2 hn
  | @double x htype hx =>
      rw [shapeValue_of_truthy registry _ f (Json.isTruthy_asText_number _), htype]
      exact (coerceNumber_readNumber_double_iff x).2 hx
  | @wholeDouble x htype hx hlarge hsmall =>
      rw [shapeValue_of_truthy registry _ f (Json.isTruthy_asText_number _), htype]
      exact (coerceNumber_readWhole_double_iff x).2 ⟨hx, hlarge, hsmall⟩
  | parsed h =>
      obtain ⟨name, parser, htype, hfind, hne, hparse⟩ := h
      rw [shapeValue_of_truthy registry _ f ((Json.isTruthy_asText_iff _).2 hne), htype]
      dsimp only
      rw [hfind]
      dsimp only
      rw [hparse]

/-- Of a conversion to a number only `null` and numbers can come back. -/
theorem carries_of_coerceNumber {read : List Char → Option Rounded}
    (h : coerceNumber read value.asText = value)
    (hnull : f.type = .number ∨ f.type = .int)
    (hinteger : ∀ n, coerceNumber read (Json.number (.integer n)).asText = .number (.integer n) →
      n.natAbs < Nat.pow 2 53)
    (hdouble : ∀ x, coerceNumber read (Json.number (.double x)).asText = .number (.double x) →
      f.Carries registry (.number (.double x))) : f.Carries registry value := by
  rcases coerceNumber_cases read value.asText with ⟨n, hn⟩ | hnothing
  · rw [h] at hn
    subst hn
    cases n with
    | integer n => exact .integer hnull (hinteger n h)
    | double x => exact hdouble x h
  · rw [h] at hnothing
    rw [hnothing]
    exact .null (hnull.imp_right .inl)

theorem Field.carries_of_shapeValue_asText (h : shapeValue registry value.asText f = value) :
    f.Carries registry value := by
  by_cases hstring : ∃ s, value = .string s
  · obtain ⟨s, rfl⟩ := hstring
    exact .string s
  · have hother : value.asText ≠ value := fun heq => hstring ⟨_, heq.symm⟩
    cases htruthy : value.asText.isTruthy with
    | false =>
        rw [shapeValue_of_not_truthy registry htruthy] at h
        exact absurd h hother
    | true =>
        rw [shapeValue_of_truthy registry _ f htruthy] at h
        cases htype : f.type with
        | string | untyped =>
            rw [htype] at h
            exact absurd h hother
        | number =>
            rw [htype] at h
            exact carries_of_coerceNumber h (.inl htype)
              (fun n => (coerceNumber_readNumber_integer_iff n).1)
              fun x hx => .double htype ((coerceNumber_readNumber_double_iff x).1 hx)
        | int =>
            rw [htype] at h
            refine carries_of_coerceNumber h (.inr htype)
              (fun n => (coerceNumber_readWhole_integer_iff n).1) fun x hx => ?_
            obtain ⟨hwhole, hlarge, hsmall⟩ := (coerceNumber_readWhole_double_iff x).1 hx
            exact .wholeDouble htype hwhole hlarge hsmall
        | date =>
            rw [htype] at h
            rcases coerceDate_cases value.asText with ⟨s, hs⟩ | hnothing
            · exact absurd ⟨s, h.symm.trans hs⟩ hstring
            · obtain rfl : value = .null := h.symm.trans hnothing
              exact .null (.inr (.inr htype))
        | array | object =>
            rw [htype] at h
            exact absurd h hother
        | custom name =>
            rw [htype] at h
            dsimp only at h
            cases hfind : registry.find? name with
            | none =>
                rw [hfind] at h
                exact absurd h hother
            | some parser =>
                rw [hfind] at h
                dsimp only at h
                cases hparse : parser.parse value.asText fun w _ => shapeValue registry w with
                | parsed result =>
                    rw [hparse] at h
                    obtain rfl : result = value := h
                    exact .parsed ⟨name, parser, htype, hfind,
                      (Json.isTruthy_asText_iff _).1 htruthy, hparse⟩
                | refused | crashed =>
                    rw [hparse] at h
                    exact absurd h hother

/--
**What survives as text**: a value that its field leaves as it is comes back from its plain text if
and only if the field carries it.
-/
theorem shapeValue_asText_iff (hfixed : shapeValue registry value f = value) :
    shapeValue registry value.asText f = value ↔ f.Carries registry value :=
  ⟨Field.carries_of_shapeValue_asText, fun h => h.shapeValue_asText hfixed⟩

end Switchboard
