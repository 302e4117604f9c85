import Switchboard.Proofs.Number.Plain
import Switchboard.Proofs.Number.Runs

/-!
# Printed numbers are read to their end

Whatever number is printed, a reader of numbers takes the whole text for one numeral
(`Number.readsThrough_plainText`).  A reader of whole numbers does so only if nothing but a
sign and digits is printed, which is the case for the integers and for the doubles
without a fraction below `10 ^ 21` (`Number.readsThroughWhole_plainText_iff`): every
other double has a point or the mark of an exponent in its text.
-/

namespace Switchboard

/-- The number is an integer, or a double of integral value below `10 ^ 21` in magnitude. -/
def Number.IsIntegral : Number → Prop
  | .integer _ => True
  | .double x => ∃ k : ℤ, x.toRat = k ∧ |k| < 10 ^ 21

/-- The longest numeral at the start of the text is the whole text, and its number is read. -/
def ReadsThrough (text : List Char) : Prop :=
  ∃ l : Literal, l.text = text ∧ Literal.scan (Text.trimStart text) = some (l, []) ∧
    (Numeral.decimal l).IsLongest (Text.trimStart text) ∧ readNumber text = some l.value

/-- The sign and the run of digits that are read as a whole number are the whole text. -/
def ReadsThroughWhole (text : List Char) : Prop :=
  ∃ l : WholeLiteral, WholeLiteral.scan (Text.trimStart text) = some l ∧
    l.sign.text ++ l.digits = text

/-! ## Numerals -/

theorem Literal.IsPrinted.readsThrough {l : Literal} (h : l.IsPrinted) : ReadsThrough l.text := by
  have hscan : Literal.scan l.text = some (l, []) := Literal.scan_text h.wellFormed
  have hlongest : (Numeral.decimal l).IsLongest l.text :=
    Numeral.isLongest_of_scan (Numeral.scan_text (n := .decimal l) h.wellFormed)
  refine ⟨l, rfl, ?_, ?_, readNumber_text h⟩
  · rwa [h.trimStart_text]
  · rwa [h.trimStart_text]

/-- Every number is printed as a numeral. -/
theorem Number.exists_printed (n : Number) : ∃ l : Literal, l.IsPrinted ∧ l.text = n.plainText := by
  cases n with
  | integer k =>
      obtain ⟨hprinted, htext, -⟩ := printed_natText (Sign.ofNegative (k < 0)) k.natAbs
      exact ⟨_, hprinted, by rw [htext, plainText, intText_eq]⟩
  | double x =>
      obtain ⟨l, hprinted, htext, -⟩ := x.exists_printed_plainText
      exact ⟨l, hprinted, htext⟩

theorem Number.readsThrough_plainText (n : Number) : ReadsThrough n.plainText := by
  obtain ⟨l, hprinted, htext⟩ := n.exists_printed
  rw [← htext]
  exact hprinted.readsThrough

/-! ## Whole numerals -/

theorem readsThroughWhole_natText (negative : Bool) (m : ℕ) :
    ReadsThroughWhole ((Sign.ofNegative negative).text ++ natText m) := by
  have hne := natText_ne_nil m
  have hdigits : ∀ c ∈ natText m, c.isDigit = true := fun c hc => isDigit_of_mem_natText hc
  have hscan := @WholeLiteral.scan_digits negative _ [] hne hdigits (by simp [EndsDigits]) (by simp)
  have htrim := trimStart_text_append (.ofNegative negative) (startsWithDigit_append hne hdigits [])
  rw [List.append_nil] at hscan htrim
  exact ⟨_, by rw [htrim, hscan], rfl⟩

theorem Sign.mem_text {s : Sign} {c : Char} (h : c ∈ s.text) : c = '+' ∨ c = '-' := by
  cases s with
  | none => exact absurd h List.not_mem_nil
  | plus => exact .inl (List.mem_singleton.1 h)
  | minus => exact .inr (List.mem_singleton.1 h)

/-- A text that is read through as a whole number is a sign and digits of base ten: the name of
base sixteen would be left over. -/
theorem ReadsThroughWhole.char_cases {text : List Char} (h : ReadsThroughWhole text) {c : Char}
    (hc : c ∈ text) : (c = '+' ∨ c = '-') ∨ c.isDigit = true := by
  obtain ⟨l, hscan, htext⟩ := h
  have hbegins := WholeStart.begins_of (Text.trimStart text)
  rw [WholeStart.scan_eq] at hscan
  split at hscan
  · simp at hscan
  · obtain rfl := Option.some.inj hscan
    dsimp only at htext
    obtain ⟨name, hname, hparts⟩ := hbegins.text
    have hten : (WholeStart.of (Text.trimStart text)).base = .ten := by
      have hlength := congrArg List.length hparts
      have hwhole := congrArg List.length htext
      have htrim : (Text.trimStart text).length ≤ text.length := List.length_dropWhile_le _ _
      simp only [List.length_append] at hlength hwhole
      have hnil : name = [] := List.length_eq_zero_iff.1 (by omega)
      cases hbase : (WholeStart.of (Text.trimStart text)).base with
      | ten => rfl
      | sixteen =>
          rw [hbase, hnil] at hname
          exact absurd hname (by simp [Base.IsNamed])
    rw [← htext] at hc
    refine (List.mem_append.1 hc).imp Sign.mem_text fun hdigit => ?_
    have := Base.isDigit_iff.2 (hbegins.digits c hdigit)
    rwa [hten] at this

/-- A decimal has a point or the mark of an exponent in its text. -/
theorem Decimal.exists_mem_text (d : Decimal) : '.' ∈ d.text ∨ 'e' ∈ d.text := by
  unfold text
  split
  · left
    unfold positional
    dsimp only
    split
    · simp
    · split <;> simp
  · right
    unfold scientific
    simp

theorem Double.abs_toRat (x : Double) : |x.toRat| = x.abs := by
  have hnonneg : 0 ≤ x.abs := by
    unfold abs
    positivity
  unfold toRat
  split
  · rw [abs_neg, abs_of_nonneg hnonneg]
  · exact abs_of_nonneg hnonneg

/-- Of the doubles the integral ones are those that are printed as integers. -/
theorem Double.isIntegral_iff {x : Double} :
    (Number.double x).IsIntegral ↔ x.isWhole = true ∧ x.wholePart < wholeLimit := by
  have hlimit : wholeLimit = 10 ^ 21 := by decide
  rw [Number.IsIntegral, hlimit]
  constructor
  · rintro ⟨k, hk, hsmall⟩
    have habs : x.abs = k.natAbs := by
      rw [← abs_toRat, hk, Nat.cast_natAbs, Int.cast_abs]
    obtain ⟨hwhole, hpart⟩ := isWhole_of_abs_eq habs
    refine ⟨hwhole, ?_⟩
    rw [hpart]
    rw [Int.abs_eq_natAbs] at hsmall
    exact_mod_cast hsmall
  · rintro ⟨hwhole, hsmall⟩
    refine ⟨x.truncate, ?_, ?_⟩
    · rw [toRat, truncate, isWhole_iff.1 hwhole]
      split <;> push_cast <;> rfl
    · have hpart : |x.truncate| = x.wholePart := by
        unfold truncate
        split <;> simp
      rw [hpart]
      exact_mod_cast hsmall

/-- A number is read through as a whole number exactly if it is integral. -/
theorem Number.readsThroughWhole_plainText_iff (n : Number) :
    ReadsThroughWhole n.plainText ↔ n.IsIntegral := by
  cases n with
  | integer k =>
      refine iff_of_true ?_ trivial
      rw [plainText, intText_eq]
      exact readsThroughWhole_natText _ _
  | double x =>
      rw [Double.isIntegral_iff]
      constructor
      · intro hreads
        by_contra hnot
        obtain ⟨-, htext⟩ := Double.plainText_of_not hnot
        rw [htext] at hreads
        rcases x.shortest.exists_mem_text with hpoint | hmark
        · exact absurd (hreads.char_cases (List.mem_append_right _ hpoint)) (by decide)
        · exact absurd (hreads.char_cases (List.mem_append_right _ hmark)) (by decide)
      · rintro ⟨hwhole, hsmall⟩
        rw [Double.plainText_of_isWhole hwhole hsmall]
        exact readsThroughWhole_natText _ _

end Switchboard
