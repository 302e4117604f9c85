import Switchboard.Proofs.Number.Longest
import Switchboard.Proofs.Number.Numeral
import Switchboard.Proofs.Number.Whole

/-!
# Numbers come back from their text

A number that is printed and read again is the number it was, as long as the reader
reads numbers at all: an integer below `2 ^ 53` and every double come back
(`readNumber_intText`, `readNumber_plainText`).  A double is printed as an integer
or as its shortest decimal, and each of them is a printed numeral whose value
rounds to the double; where the point of the decimal stands does not matter for
its value (`Decimal.exists_printed`).

A reader of whole numbers gets a double back only if it is printed as an integer:
everything that it reads is whole, and of a number that is printed with an
exponent it sees one digit.
-/

namespace Switchboard

/-- A printed numeral is read whole. -/
theorem readNumber_text {l : Literal} (h : l.IsPrinted) : readNumber l.text = some l.value := by
  have hscan : Numeral.scan l.text = some (.decimal l, []) :=
    Numeral.scan_text (n := .decimal l) h.wellFormed
  rw [Numeral.readNumber_eq, h.trimStart_text, hscan]
  rfl

theorem Literal.value_of_roundsFrom {l : Literal} {x : Double} (h : x.RoundsFrom l.magnitude)
    (hsign : l.sign = Sign.ofNegative x.negative) : l.value = .finite x :=
  Literal.value_eq_iff.2 ⟨by rw [hsign, Sign.isMinus_ofNegative], h⟩

/-! ## Decimals -/

/-- A power of ten with its sign. -/
def Exponent.ofInt (e : ℤ) : Exponent :=
  ⟨'e', if e < 0 then .minus else .plus, natText e.natAbs⟩

theorem Exponent.value_ofInt (e : ℤ) : (Exponent.ofInt e).value = e := by
  unfold value ofInt
  rw [digitsValue_natText]
  by_cases h : e < 0
  · rw [if_pos h]
    show -(e.natAbs : ℤ) = e
    omega
  · rw [if_neg h]
    show (e.natAbs : ℤ) = e
    omega

theorem Exponent.text_ofInt (e : ℤ) :
    (Exponent.ofInt e).text = 'e' :: (if e < 0 then '-' else '+') :: natText e.natAbs := by
  unfold text ofInt
  dsimp only
  split <;> rfl

namespace Decimal

variable {d : Decimal}

/-- A decimal with a plain point is a printed numeral of the same value. -/
theorem exists_printed_positional (hne : d.digits ≠ []) (hdigits : ∀ c ∈ d.digits, c.isDigit = true)
    (s : Sign) : ∃ l : Literal, l.IsPrinted ∧ l.text = s.text ++ d.positional ∧ l.sign = s ∧
      l.magnitude = d.value := by
  have hzeros : ∀ n, ∀ c ∈ List.replicate n '0', c.isDigit = true := by
    intro n c hc
    rw [List.eq_of_mem_replicate hc]
    decide
  have hlength : 0 < d.digits.length := List.length_pos_iff.2 hne
  unfold positional
  dsimp only
  split
  · rename_i hpoint
    refine ⟨⟨s, ['0'], some (List.replicate (-d.point).toNat '0' ++ d.digits), none⟩,
      ⟨by simp, by simp, ?_, by simp⟩, by simp [Literal.text], rfl, ?_⟩
    · intro c hc
      rcases List.mem_append.1 hc with hzero | hdigit
      · exact hzeros _ c hzero
      · exact hdigits c hdigit
    · have hvalue : digitsValue (['0'] ++ (List.replicate (-d.point).toNat '0' ++ d.digits)) =
          digitsValue d.digits := by
        rw [digitsValue_append, digitsValue_append, digitsValue_replicate_zero]
        simp [digitsValue]
      have hpower : (0 : ℤ) - (List.replicate (-d.point).toNat '0' ++ d.digits).length =
          d.point - d.digits.length := by
        rw [List.length_append, List.length_replicate]
        omega
      unfold Literal.magnitude Literal.power value
      dsimp only [Option.getD_some]
      rw [hvalue, hpower]
  · rename_i hpoint
    split
    · rename_i hshort
      refine ⟨⟨s, d.digits ++ List.replicate (d.point.toNat - d.digits.length) '0', some ['0'],
        none⟩, ⟨by simp [hne], ?_, by simp, by simp⟩, by simp [Literal.text], rfl, ?_⟩
      · intro c hc
        rcases List.mem_append.1 hc with hdigit | hzero
        · exact hdigits c hdigit
        · exact hzeros _ c hzero
      · have hpower : d.point - d.digits.length =
            ((d.point.toNat - d.digits.length : ℕ) : ℤ) := by omega
        unfold Literal.magnitude Literal.power value
        dsimp only [Option.getD_some]
        rw [digitsValue_append, digitsValue_append, digitsValue_replicate_zero,
          List.length_replicate, hpower, zpow_natCast]
        simp [digitsValue]
    · rename_i hlong
      refine ⟨⟨s, d.digits.take d.point.toNat, some (d.digits.drop d.point.toNat), none⟩,
        ⟨?_, ?_, ?_, by simp⟩, by simp [Literal.text], rfl, ?_⟩
      · rw [ne_eq, List.take_eq_nil_iff, not_or]
        exact ⟨by omega, hne⟩
      · exact fun c hc => hdigits c (List.mem_of_mem_take hc)
      · exact fun c hc => hdigits c (List.mem_of_mem_drop hc)
      · have hpower : (0 : ℤ) - (d.digits.drop d.point.toNat).length =
            d.point - d.digits.length := by
          rw [List.length_drop]
          omega
        unfold Literal.magnitude Literal.power value
        dsimp only [Option.getD_some]
        rw [List.take_append_drop, hpower]

/-- A decimal with an exponent is a printed numeral of the same value, with one digit before the
point. -/
theorem exists_printed_scientific (hne : d.digits ≠ [])
    (hdigits : ∀ c ∈ d.digits, c.isDigit = true) (s : Sign) :
    ∃ l : Literal, l.IsPrinted ∧ l.text = s.text ++ d.scientific ∧ l.sign = s ∧
      l.magnitude = d.value := by
  have hexponent : ∀ e ∈ some (Exponent.ofInt (d.point - 1)),
      e.mark = 'e' ∧ e.digits ≠ [] ∧ ∀ c ∈ e.digits, c.isDigit = true := by
    rintro e ⟨⟩
    exact ⟨rfl, natText_ne_nil _, fun c hc => isDigit_of_mem_natText hc⟩
  unfold scientific value
  match hds : d.digits with
  | [] => exact absurd hds hne
  | [c] =>
      refine ⟨⟨s, [c], none, some (Exponent.ofInt (d.point - 1))⟩,
        ⟨by simp, ?_, by simp, hexponent⟩, ?_, rfl, ?_⟩
      · rw [← hds]
        exact hdigits
      · simp [Literal.text, Exponent.text_ofInt]
      · simp [Literal.magnitude, Literal.power, Exponent.value_ofInt]
  | c :: e :: rest =>
      rw [hds] at hdigits
      refine ⟨⟨s, [c], some (e :: rest), some (Exponent.ofInt (d.point - 1))⟩,
        ⟨by simp, ?_, ?_, hexponent⟩, ?_, rfl, ?_⟩
      · exact fun a ha => hdigits a (List.mem_cons.2 (.inl (List.mem_singleton.1 ha)))
      · exact fun a ha => hdigits a (List.mem_cons_of_mem c ha)
      · simp [Literal.text, Exponent.text_ofInt]
      · have hpower : d.point - 1 - ((e :: rest).length : ℤ) =
            d.point - ((c :: e :: rest).length : ℤ) := by
          rw [List.length_cons (a := c)]
          omega
        unfold Literal.magnitude Literal.power
        dsimp only [Option.getD_some]
        rw [Exponent.value_ofInt, hpower]
        rfl

/-- The text of a decimal is a printed numeral of the same value. -/
theorem exists_printed (hne : d.digits ≠ []) (hdigits : ∀ c ∈ d.digits, c.isDigit = true)
    (s : Sign) : ∃ l : Literal, l.IsPrinted ∧ l.text = s.text ++ d.text ∧ l.sign = s ∧
      l.magnitude = d.value := by
  unfold text
  split
  · exact exists_printed_positional hne hdigits s
  · exact exists_printed_scientific hne hdigits s

end Decimal

/-! ## Numbers -/

/-- The digits of a natural number behind a sign are a printed numeral. -/
theorem printed_natText (s : Sign) (n : ℕ) :
    (⟨s, natText n, none, none⟩ : Literal).IsPrinted ∧
      (⟨s, natText n, none, none⟩ : Literal).text = s.text ++ natText n ∧
      (⟨s, natText n, none, none⟩ : Literal).magnitude = n := by
  refine ⟨⟨natText_ne_nil n, fun c hc => isDigit_of_mem_natText hc, by simp, by simp⟩,
    by simp [Literal.text], ?_⟩
  simp [Literal.magnitude, Literal.power, digitsValue_natText]

theorem intText_eq (n : ℤ) :
    intText n = (Sign.ofNegative (n < 0)).text ++ natText n.natAbs := by
  unfold intText Sign.ofNegative
  by_cases h : n < 0
  · simp [h, Sign.text]
  · simp [h, Sign.text]

namespace Double

variable {x : Double}

theorem isWhole_of_mantissa (h : x.mantissa = 0) : x.isWhole = true ∧ x.wholePart = 0 :=
  isWhole_of_abs_eq (by simp [abs, h])

/-- A double without a fraction that is not too large is printed as an integer. -/
theorem plainText_of_isWhole (hwhole : x.isWhole = true) (hsmall : x.wholePart < wholeLimit) :
    Number.plainText (.double x) = (Sign.ofNegative x.negative).text ++ natText x.wholePart := by
  unfold Number.plainText
  dsimp only
  rw [if_pos (by simp [hwhole, hsmall])]
  cases x.negative <;> rfl

/-- Every other double is printed as its shortest decimal. -/
theorem plainText_of_not (h : ¬ (x.isWhole = true ∧ x.wholePart < wholeLimit)) :
    x.mantissa ≠ 0 ∧ Number.plainText (.double x) =
      (Sign.ofNegative x.negative).text ++ x.shortest.text := by
  have hx : x.mantissa ≠ 0 := by
    intro hzero
    obtain ⟨hwhole, hpart⟩ := isWhole_of_mantissa hzero
    exact h ⟨hwhole, by rw [hpart]; decide⟩
  refine ⟨hx, ?_⟩
  unfold Number.plainText Double.text
  dsimp only
  have hnotZero : x.isZero = false := by simpa [isZero] using hx
  rw [if_neg (by simpa using h), hnotZero]
  cases x.negative <;> rfl

/-- A double is printed as a numeral that is read as that double. -/
theorem exists_printed_plainText (x : Double) :
    ∃ l : Literal, l.IsPrinted ∧ l.text = Number.plainText (.double x) ∧ l.value = .finite x := by
  by_cases h : x.isWhole = true ∧ x.wholePart < wholeLimit
  · obtain ⟨hwhole, hsmall⟩ := h
    obtain ⟨hprinted, htext, hmagnitude⟩ :=
      printed_natText (Sign.ofNegative x.negative) x.wholePart
    refine ⟨_, hprinted, by rw [htext, plainText_of_isWhole hwhole hsmall], ?_⟩
    by_cases hx : x.mantissa = 0
    · rw [(isWhole_of_mantissa hx).2, eq_zero_of_mantissa hx]
      cases x.negative <;> rfl
    · refine Literal.value_of_roundsFrom ?_ rfl
      rw [hmagnitude, ← isWhole_iff.1 hwhole]
      exact roundsFrom_abs hx
  · obtain ⟨hx, htext⟩ := plainText_of_not h
    obtain ⟨hrounds, hne, hdigits, -⟩ := shortest_roundsFrom hx
    obtain ⟨l, hprinted, hl, hsign, hmagnitude⟩ :=
      Decimal.exists_printed hne hdigits (Sign.ofNegative x.negative)
    refine ⟨l, hprinted, by rw [hl, htext], Literal.value_of_roundsFrom ?_ hsign⟩
    rw [hmagnitude]
    exact hrounds

end Double

/--
**Doubles come back**: the text of a double is read as that double.
-/
theorem readNumber_plainText (x : Double) :
    readNumber (Number.plainText (.double x)) = some (.finite x) := by
  obtain ⟨l, hprinted, htext, hvalue⟩ := x.exists_printed_plainText
  rw [← htext, readNumber_text hprinted, hvalue]

theorem readNumber_intText (n : ℤ) :
    readNumber (intText n) = some (Double.ofDecimal (n < 0) n.natAbs 0) := by
  obtain ⟨hprinted, htext, -⟩ := printed_natText (Sign.ofNegative (n < 0)) n.natAbs
  rw [intText_eq, ← htext, readNumber_text hprinted]
  simp [Literal.value, digitsValue_natText, Sign.isMinus_ofNegative]

/-! ## Reading whole numbers -/

theorem readWhole_natText (negative : Bool) (n : ℕ) :
    readWhole ((Sign.ofNegative negative).text ++ natText n) =
      some (Double.roundRatio negative n 1) := by
  have hread := @readWhole_digits negative (natText n) [] (natText_ne_nil n)
    (fun c hc => isDigit_of_mem_natText hc) (by simp [EndsDigits]) (by simp)
  rw [List.append_nil, digitsValue_natText] at hread
  exact hread

theorem readWhole_intText (n : ℤ) :
    readWhole (intText n) = some (Double.roundRatio (n < 0) n.natAbs 1) := by
  rw [intText_eq, readWhole_natText]

/-- A reader of whole numbers reads nothing else. -/
theorem exists_of_readWhole {cs : List Char} {r : Rounded} (h : readWhole cs = some r) :
    ∃ negative n, r = Double.roundRatio negative n 1 := by
  obtain ⟨l, -, hvalue⟩ := Option.bind_eq_some_iff.1 h
  unfold WholeLiteral.value at hvalue
  dsimp only at hvalue
  split at hvalue
  · simp at hvalue
  · exact ⟨_, _, (Option.some.inj hvalue).symm⟩

namespace Double

variable {x : Double}

/-- A double that is printed as an integer comes back. -/
theorem readWhole_plainText_of_isWhole (hwhole : x.isWhole = true)
    (hsmall : x.wholePart < wholeLimit) :
    readWhole (Number.plainText (.double x)) = some (.finite x) := by
  rw [plainText_of_isWhole hwhole hsmall, readWhole_natText]
  by_cases hx : x.mantissa = 0
  · rw [(isWhole_of_mantissa hx).2, eq_zero_of_mantissa hx]
    rfl
  · refine congrArg some (roundRatio_of_roundsFrom hx Nat.one_pos ?_ x.negative)
    rw [Nat.cast_one, div_one, ← isWhole_iff.1 hwhole]
    exact roundsFrom_abs hx

/-- Of a larger double only the first digit is seen. -/
theorem readWhole_plainText_of_le (h : wholeLimit ≤ x.wholePart) :
    ∃ n < 10, readWhole (Number.plainText (.double x)) =
      some (roundRatio x.negative n 1) := by
  obtain ⟨hx, htext⟩ := plainText_of_not (x := x) (by omega)
  obtain ⟨-, hne, hdigits, hpoint⟩ := shortest_roundsFrom hx
  have hmagnitude : 21 < x.magnitude := by
    have hle : ((10 ^ 21 : ℕ) : ℚ) ≤ x.abs := by
      have hfloor : (x.wholePart : ℚ) ≤ x.abs := by
        rw [wholePart_eq_floor]
        exact Nat.floor_le (abs_pos hx).le
      refine le_trans ?_ hfloor
      exact_mod_cast h
    have hlt : (10 : ℚ) ^ (21 : ℤ) < 10 ^ x.magnitude := by
      refine lt_of_le_of_lt ?_ (magnitude_bounds hx).2
      exact_mod_cast hle
    exact (zpow_lt_zpow_iff_right₀ (by norm_num)).1 hlt
  have hscientific : x.shortest.text = x.shortest.scientific := by
    refine if_neg ?_
    simp only [Decimal.isPositional, Bool.and_eq_true, decide_eq_true_eq, not_and, not_le]
    omega
  rw [htext, hscientific]
  unfold Decimal.scientific
  match hds : x.shortest.digits with
  | [] => exact absurd hds hne
  | c :: rest =>
      have hc : c.isDigit = true := hdigits c (by rw [hds]; exact List.mem_cons_self)
      have hone : ∀ a ∈ [c], a.isDigit = true := fun a ha => by rwa [List.mem_singleton.1 ha]
      refine ⟨digitsValue [c], digitsValue_singleton_lt hc, ?_⟩
      -- behind the digit stands the point or the mark of the exponent
      cases rest with
      | nil => exact readWhole_digits (by simp) hone (by simp [EndsDigits]) (by simp)
      | cons d rest => exact readWhole_digits (by simp) hone (by simp [EndsDigits]) (by simp)

end Double

end Switchboard
