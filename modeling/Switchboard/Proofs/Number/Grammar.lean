import Switchboard.Proofs.Number.Digits

/-!
# The grammar of decimal numerals

A decimal numeral is a sign, digits with or without a point among them, and an exponent
that has digits of its own (`Literal.WellFormed`).  `Literal.scan` goes through a text
from the left and never goes back further than to the point or to the mark of the
exponent.  It finds numerals only (`Literal.wellFormed_of_scan`), it finds one wherever
a text starts with one, and what it leaves is then the end of what any numeral leaves
(`Literal.exists_scan`): so no numeral at the start of the text is longer.

The last fact is seen from the text of a numeral with something behind it.  Digits that
follow belong to the last part of the numeral, whichever that is, and after them the
parts that it does not have may follow (`scan_of_exponent`, `scan_of_fraction`,
`scan_of_whole`).  With nothing behind it the numeral itself comes out, so a text is the
text of one numeral at most (`Literal.scan_text`).
-/

namespace Switchboard

/-- The text does not go on with a sign. -/
def NoSign (cs : List Char) : Prop := ∀ c ∈ cs.head?, c ≠ '+' ∧ c ≠ '-'

theorem StartsWithDigit.noSign {cs : List Char} (h : StartsWithDigit cs) : NoSign cs := by
  obtain ⟨c, hhead, hdigit⟩ := h
  obtain ⟨hplus, hminus, -⟩ := isDigit_cases hdigit
  intro d hd
  obtain rfl : d = c := Option.mem_unique hd hhead
  exact ⟨hplus, hminus⟩

theorem Sign.scan_text_append (s : Sign) {rest : List Char} (h : NoSign rest) :
    Sign.scan (s.text ++ rest) = (s, rest) := by
  cases s with
  | plus => rfl
  | minus => rfl
  | none =>
      show Sign.scan rest = _
      unfold Sign.scan
      split
      · exact absurd rfl (h '+' rfl).1
      · exact absurd rfl (h '-' rfl).2
      · rfl

/-! ## Exponents -/

namespace Exponent

/-- The exponent is written as the grammar has it. -/
structure WellFormed (e : Exponent) : Prop where
  mark : e.mark = 'e' ∨ e.mark = 'E'
  digits_ne : e.digits ≠ []
  digits : ∀ c ∈ e.digits, c.isDigit = true

variable {e : Exponent}

theorem text_append (e : Exponent) (rest : List Char) :
    e.text ++ rest = e.mark :: (e.sign.text ++ (e.digits ++ rest)) := by
  simp [text]

/-- The mark of an exponent is neither a digit nor a point. -/
theorem WellFormed.head_text_append (h : e.WellFormed) (rest : List Char) :
    ∀ c ∈ (e.text ++ rest).head?, c.isDigit = false ∧ c ≠ '.' := by
  rw [text_append]
  rintro c ⟨⟩
  rcases h.mark with hmark | hmark
  · rw [hmark]
    decide
  · rw [hmark]
    decide

/-- What is taken is an exponent or nothing. -/
theorem scan_sound (cs : List Char) :
    (∀ e ∈ (scan cs).1, e.WellFormed) ∧ (scan cs).1.elim [] text ++ (scan cs).2 = cs := by
  cases cs with
  | nil => exact ⟨by simp [scan], rfl⟩
  | cons c rest =>
      rw [scan]
      by_cases hmark : c = 'e' ∨ c = 'E'
      · rw [if_pos hmark]
        dsimp only
        by_cases hdigits : digitRun (Sign.scan rest).2 = []
        · rw [if_pos hdigits]
          exact ⟨by simp, rfl⟩
        · rw [if_neg hdigits]
          refine ⟨?_, ?_⟩
          · rintro e ⟨⟩
            exact ⟨hmark, hdigits, fun d hd => List.mem_takeWhile_imp hd⟩
          · rw [Option.elim_some, text_append, digitRun_append_afterDigits, Sign.text_scan]
      · rw [if_neg hmark]
        exact ⟨by simp, rfl⟩

theorem scan_suffix (cs : List Char) : (scan cs).2 <:+ cs := ⟨_, (scan_sound cs).2⟩

/-- Digits behind an exponent belong to it. -/
theorem scan_text_append (h : e.WellFormed) (rest : List Char) :
    scan (e.text ++ rest) =
      (some { e with digits := e.digits ++ digitRun rest }, afterDigits rest) := by
  have hsign := Sign.scan_text_append e.sign (startsWithDigit_append h.digits_ne h.digits rest).noSign
  rw [text_append, scan, if_pos h.mark, hsign]
  dsimp only
  rw [digitRun_append_of_digits h.digits, afterDigits_append_of_digits h.digits,
    if_neg (List.append_ne_nil_of_left_ne_nil h.digits_ne _)]

end Exponent

/-! ## Decimal numerals -/

namespace Literal

/-- The numeral is written as the grammar has it. -/
structure WellFormed (l : Literal) : Prop where
  whole : ∀ c ∈ l.whole, c.isDigit = true
  fraction : ∀ c ∈ l.fraction.getD [], c.isDigit = true
  digits_ne : l.whole ≠ [] ∨ l.fraction.getD [] ≠ []
  exponent : ∀ e ∈ l.exponent, e.WellFormed

variable {l : Literal}

/-- The exponent as it is written, if there is one. -/
def exponentText (l : Literal) : List Char :=
  match l.exponent with | some e => e.text | none => []

/-- The point and the digits after it as they are written, if there is a point. -/
def fractionText (l : Literal) : List Char :=
  match l.fraction with | some digits => '.' :: digits | none => []

theorem exponentText_eq (l : Literal) : l.exponentText = l.exponent.elim [] Exponent.text := by
  unfold exponentText
  cases l.exponent <;> rfl

theorem fractionText_eq (l : Literal) : l.fractionText = l.fraction.elim [] ('.' :: ·) := by
  unfold fractionText
  cases l.fraction <;> rfl

theorem text_eq (l : Literal) :
    l.text = l.sign.text ++ (l.whole ++ (l.fractionText ++ l.exponentText)) := by
  unfold text fractionText exponentText
  cases l.fraction <;> cases l.exponent <;> simp

/-! ### The parts of a scan -/

variable {whole digits rest : List Char}

/-- What is taken is a point with digits on one side of it, or nothing. -/
theorem scanFraction_sound (whole cs : List Char) :
    (∀ c ∈ (scanFraction whole cs).1.getD [], c.isDigit = true) ∧
      ((scanFraction whole cs).1 ≠ none → whole ≠ [] ∨ (scanFraction whole cs).1.getD [] ≠ []) ∧
      (scanFraction whole cs).1.elim [] ('.' :: ·) ++ (scanFraction whole cs).2 = cs := by
  unfold scanFraction
  split
  · rename_i rest
    by_cases hnone : whole = [] ∧ digitRun rest = []
    · rw [if_pos hnone]
      exact ⟨by simp, by simp, rfl⟩
    · rw [if_neg hnone]
      refine ⟨fun c hc => List.mem_takeWhile_imp hc, fun _ => not_and_or.1 hnone, ?_⟩
      rw [Option.elim_some, List.cons_append, digitRun_append_afterDigits]
  · exact ⟨by simp, by simp, rfl⟩

theorem scanFraction_of_head {cs : List Char} (h : ∀ c ∈ cs.head?, c ≠ '.') :
    scanFraction whole cs = (none, cs) := by
  unfold scanFraction
  split
  · exact absurd rfl (h '.' rfl)
  · rfl

theorem scanFraction_suffix (whole cs : List Char) : (scanFraction whole cs).2 <:+ cs :=
  ⟨_, (scanFraction_sound whole cs).2.2⟩

/-- Digits behind a point and its digits belong to them. -/
theorem scanFraction_append (hdigits : ∀ c ∈ digits, c.isDigit = true)
    (hne : whole ≠ [] ∨ digits ≠ []) (rest : List Char) :
    scanFraction whole ('.' :: (digits ++ rest)) =
      (some (digits ++ digitRun rest), afterDigits rest) := by
  rw [scanFraction, digitRun_append_of_digits hdigits, afterDigits_append_of_digits hdigits]
  refine if_neg fun hnone => ?_
  rcases hne with hne | hne
  · exact hne hnone.1
  · exact hne (List.append_eq_nil_iff.1 hnone.2).1

/-! ### What a scan finds -/

/-- What is found is a numeral, and the text is made of it and of what is left. -/
theorem wellFormed_of_scan {cs : List Char} (h : scan cs = some (l, rest)) :
    l.WellFormed ∧ l.text ++ rest = cs := by
  have hsign := Sign.text_scan cs
  have hwhole := digitRun_append_afterDigits (Sign.scan cs).2
  have hrun : ∀ c ∈ digitRun (Sign.scan cs).2, c.isDigit = true :=
    fun c hc => List.mem_takeWhile_imp hc
  obtain ⟨hdigits, hpoint, hfraction⟩ :=
    scanFraction_sound (digitRun (Sign.scan cs).2) (afterDigits (Sign.scan cs).2)
  obtain ⟨hexponent, hrest⟩ := Exponent.scan_sound
    (scanFraction (digitRun (Sign.scan cs).2) (afterDigits (Sign.scan cs).2)).2
  unfold scan at h
  dsimp only at h
  split at h
  · simp at h
  · rename_i hne
    obtain ⟨rfl, rfl⟩ := Prod.mk.inj (Option.some.inj h)
    refine ⟨⟨hrun, hdigits, ?_, hexponent⟩, ?_⟩
    · by_cases hnil : digitRun (Sign.scan cs).2 = []
      · exact hpoint fun hnone => hne ⟨hnil, hnone⟩
      · exact .inl hnil
    · rw [text_eq, fractionText_eq, exponentText_eq]
      simp only [List.append_assoc]
      rw [hrest, hfraction, hwhole, hsign]

theorem scan_eq {sign : Sign} {cs unsigned afterWhole afterFraction : List Char}
    {fraction : Option (List Char)} {exponent : Option Exponent}
    (hsign : Sign.scan cs = (sign, unsigned)) (hwhole : digitRun unsigned = whole)
    (hafter : afterDigits unsigned = afterWhole)
    (hfraction : scanFraction whole afterWhole = (fraction, afterFraction))
    (hne : ¬ (whole = [] ∧ fraction = none))
    (hexponent : Exponent.scan afterFraction = (exponent, rest)) :
    scan cs = some (⟨sign, whole, fraction, exponent⟩, rest) := by
  rw [scan, hsign]
  dsimp only
  rw [hwhole, hafter, hfraction]
  dsimp only
  rw [if_neg hne, hexponent]

/-! ### What follows a numeral -/

/-- Behind its sign a numeral starts with a digit or with the point. -/
theorem WellFormed.exists_head (h : l.WellFormed) (rest : List Char) :
    ∃ c tail, l.whole ++ (l.fractionText ++ rest) = c :: tail ∧ (c.isDigit = true ∨ c = '.') := by
  cases hwhole : l.whole with
  | cons c tail => exact ⟨c, _, rfl, .inl (h.whole c (by simp [hwhole]))⟩
  | nil =>
      have hdigits := h.digits_ne.resolve_left (not_not_intro hwhole)
      unfold fractionText
      cases hfraction : l.fraction with
      | none => simp [hfraction] at hdigits
      | some digits => exact ⟨'.', _, rfl, .inr rfl⟩

theorem WellFormed.noSign (h : l.WellFormed) (rest : List Char) :
    NoSign (l.whole ++ (l.fractionText ++ rest)) := by
  obtain ⟨c, tail, heq, hc⟩ := h.exists_head rest
  rw [heq]
  rintro d ⟨⟩
  rcases hc with hdigit | rfl
  · exact ⟨(isDigit_cases hdigit).1, (isDigit_cases hdigit).2.1⟩
  · decide

/-- Digits behind an exponent belong to it. -/
theorem scan_of_exponent (h : l.WellFormed) {e : Exponent} (he : l.exponent = some e)
    (rest : List Char) :
    scan (l.text ++ rest) =
      some ({ l with exponent := some { e with digits := e.digits ++ digitRun rest } },
        afterDigits rest) := by
  have hexponent := h.exponent e he
  have hmark := hexponent.head_text_append rest
  have htext : l.text ++ rest = l.sign.text ++ (l.whole ++ (l.fractionText ++ (e.text ++ rest))) := by
    rw [text_eq, exponentText_eq, he]
    simp
  have hends : EndsDigits (l.fractionText ++ (e.text ++ rest)) := by
    unfold fractionText
    cases l.fraction with
    | none => exact fun c hc => (hmark c hc).1
    | some digits => simp [EndsDigits]
  have hfraction : scanFraction l.whole (l.fractionText ++ (e.text ++ rest)) =
      (l.fraction, e.text ++ rest) := by
    unfold fractionText
    cases hf : l.fraction with
    | none => exact scanFraction_of_head fun c hc => (hmark c hc).2
    | some digits =>
        have hdigits : ∀ c ∈ digits, c.isDigit = true := by simpa [hf] using h.fraction
        have hne : l.whole ≠ [] ∨ digits ≠ [] := by simpa [hf] using h.digits_ne
        show scanFraction l.whole ('.' :: (digits ++ (e.text ++ rest))) = _
        rw [scanFraction_append hdigits hne, digitRun_eq_nil fun c hc => (hmark c hc).1,
          afterDigits_eq_self fun c hc => (hmark c hc).1, List.append_nil]
  have hne : ¬ (l.whole = [] ∧ l.fraction = none) := by
    rintro ⟨hwhole, hf⟩
    simpa [hwhole, hf] using h.digits_ne
  rw [htext]
  exact scan_eq (Sign.scan_text_append l.sign (h.noSign _)) (digitRun_append h.whole hends)
    (afterDigits_append h.whole hends) hfraction hne (Exponent.scan_text_append hexponent rest)

/-- Digits behind a point belong to it, and an exponent may follow. -/
theorem scan_of_fraction (h : l.WellFormed) (he : l.exponent = none) {digits : List Char}
    (hf : l.fraction = some digits) (rest : List Char) :
    scan (l.text ++ rest) =
      some ({ l with
              fraction := some (digits ++ digitRun rest)
              exponent := (Exponent.scan (afterDigits rest)).1 },
        (Exponent.scan (afterDigits rest)).2) := by
  have htext : l.text ++ rest = l.sign.text ++ (l.whole ++ ('.' :: (digits ++ rest))) := by
    rw [text_eq]
    simp [fractionText, exponentText, he, hf]
  have hstart : NoSign (l.whole ++ ('.' :: (digits ++ rest))) := by
    simpa [fractionText, hf] using h.noSign rest
  have hdigits : ∀ c ∈ digits, c.isDigit = true := by simpa [hf] using h.fraction
  have hne : l.whole ≠ [] ∨ digits ≠ [] := by simpa [hf] using h.digits_ne
  have hpoint : EndsDigits ('.' :: (digits ++ rest)) := endsDigits_cons (by decide) _
  rw [htext]
  exact scan_eq (Sign.scan_text_append l.sign hstart) (digitRun_append h.whole hpoint)
    (afterDigits_append h.whole hpoint) (scanFraction_append hdigits hne rest) (by simp) rfl

/-- Digits behind digits belong to them, and a point and an exponent may follow. -/
theorem scan_of_whole (h : l.WellFormed) (he : l.exponent = none) (hf : l.fraction = none)
    (rest : List Char) :
    scan (l.text ++ rest) =
      some ({ l with
              whole := l.whole ++ digitRun rest
              fraction := (scanFraction (l.whole ++ digitRun rest) (afterDigits rest)).1
              exponent := (Exponent.scan
                (scanFraction (l.whole ++ digitRun rest) (afterDigits rest)).2).1 },
        (Exponent.scan (scanFraction (l.whole ++ digitRun rest) (afterDigits rest)).2).2) := by
  have htext : l.text ++ rest = l.sign.text ++ (l.whole ++ rest) := by
    rw [text_eq]
    simp [fractionText, exponentText, he, hf]
  have hwhole : l.whole ≠ [] := by simpa [hf] using h.digits_ne
  have hstart := (startsWithDigit_append hwhole h.whole rest).noSign
  rw [htext]
  exact scan_eq (Sign.scan_text_append l.sign hstart)
    (digitRun_append_of_digits h.whole rest) (afterDigits_append_of_digits h.whole rest) rfl
    (by simp [hwhole]) rfl

/-! ### The longest numeral -/

/-- Where a text starts with a numeral one is found, and what is left then is the end of what that
numeral leaves. -/
theorem exists_scan (h : l.WellFormed) (rest : List Char) :
    ∃ found left, scan (l.text ++ rest) = some (found, left) ∧ left <:+ rest := by
  have hrest : afterDigits rest <:+ rest := List.dropWhile_suffix _
  cases he : l.exponent with
  | some e => exact ⟨_, _, scan_of_exponent h he rest, hrest⟩
  | none =>
      cases hf : l.fraction with
      | some digits =>
          exact ⟨_, _, scan_of_fraction h he hf rest, (Exponent.scan_suffix _).trans hrest⟩
      | none =>
          exact ⟨_, _, scan_of_whole h he hf rest,
            ((Exponent.scan_suffix _).trans (scanFraction_suffix _ _)).trans hrest⟩

/-- A numeral is read whole. -/
theorem scan_text (h : l.WellFormed) : scan l.text = some (l, []) := by
  obtain ⟨sign, whole, fraction, exponent⟩ := l
  rw [← List.append_nil (text _)]
  cases exponent with
  | some e =>
      rw [scan_of_exponent h rfl]
      simp [digitRun, afterDigits]
  | none =>
      cases fraction with
      | some digits =>
          rw [scan_of_fraction h rfl rfl]
          simp [digitRun, afterDigits, Exponent.scan]
      | none =>
          rw [scan_of_whole h rfl rfl]
          simp [digitRun, afterDigits, scanFraction, Exponent.scan]

end Literal

end Switchboard
