import Switchboard.Proofs.Number.Grammar

/-!
# Printed numerals

Numbers are printed without a leading point, without a plus sign in front and with a
small letter as the mark of an exponent.  They are numerals of the grammar
(`Literal.IsPrinted.wellFormed`), and nothing is trimmed in front of them.  A reader of
whole numbers stops at the point or at the mark of the exponent (`readWhole_digits`).
-/

namespace Switchboard

/-- The sign of a printed number. -/
def Sign.ofNegative (negative : Bool) : Sign := if negative then .minus else .none

theorem Sign.isMinus_ofNegative (negative : Bool) :
    (Sign.ofNegative negative).isMinus = negative := by
  cases negative <;> rfl

/-- Nothing is trimmed from a printed number. -/
theorem trimStart_text_append (s : Sign) {rest : List Char} (h : StartsWithDigit rest) :
    Text.trimStart (s.text ++ rest) = s.text ++ rest := by
  obtain ⟨c, hhead, hdigit⟩ := h
  obtain ⟨-, -, -, hblank⟩ := isDigit_cases hdigit
  cases rest with
  | nil => simp at hhead
  | cons d rest =>
      obtain rfl : d = c := by simpa using hhead
      cases s with
      | none => exact List.dropWhile_cons_of_neg (by simp [hblank])
      | plus => rfl
      | minus => rfl

/-! ## Decimal numerals -/

namespace Literal

/-- The numeral has the form in which numbers are printed. -/
structure IsPrinted (l : Literal) : Prop where
  whole_ne : l.whole ≠ []
  whole : ∀ c ∈ l.whole, c.isDigit = true
  fraction : ∀ c ∈ l.fraction.getD [], c.isDigit = true
  exponent : ∀ e ∈ l.exponent, e.mark = 'e' ∧ e.digits ≠ [] ∧ ∀ c ∈ e.digits, c.isDigit = true

theorem IsPrinted.wellFormed {l : Literal} (h : l.IsPrinted) : l.WellFormed where
  whole := h.whole
  fraction := h.fraction
  digits_ne := .inl h.whole_ne
  exponent := fun e he => ⟨.inl (h.exponent e he).1, (h.exponent e he).2.1, (h.exponent e he).2.2⟩

theorem IsPrinted.trimStart_text {l : Literal} (h : l.IsPrinted) :
    Text.trimStart l.text = l.text := by
  rw [text_eq]
  exact trimStart_text_append l.sign (startsWithDigit_append h.whole_ne h.whole _)

end Literal

/-! ## Whole numerals -/

theorem Base.value_ten {ds : List Char} (hds : ∀ c ∈ ds, c.isDigit = true) :
    Base.value .ten ds = digitsValue ds := by
  have hfold : ∀ n, ds.foldl (fun n c => n * Base.size .ten + Base.digitValue c) n =
      ds.foldl (fun n c => n * 10 + (c.toNat - '0'.toNat)) n := by
    induction ds with
    | nil => intro n; rfl
    | cons d ds ih =>
        intro n
        rw [List.foldl_cons, List.foldl_cons, ih fun c hc => hds c (by simp [hc])]
        rw [Base.digitValue, if_pos (hds d (by simp))]
        rfl
  exact hfold 0

variable {negative : Bool} {ds rest : List Char}

/-- A run of digits that no digit follows is the digits of a whole numeral, unless it is a zero in
front of the letter for base sixteen. -/
theorem WholeLiteral.scan_digits (hne : ds ≠ []) (hds : ∀ c ∈ ds, c.isDigit = true)
    (hrest : EndsDigits rest) (hbase : ∀ c ∈ rest.head?, c ≠ 'x' ∧ c ≠ 'X') :
    scan ((Sign.ofNegative negative).text ++ (ds ++ rest)) =
      some ⟨.ofNegative negative, .ten, ds⟩ := by
  have hstart := startsWithDigit_append hne hds rest
  have hletter : ∀ c tail, ds ++ rest = '0' :: c :: tail → c ≠ 'x' ∧ c ≠ 'X' := by
    intro c tail heq
    match ds, hne with
    | [d], _ => exact hbase c (by simp_all)
    | d :: e :: ds, _ =>
        obtain rfl : e = c := by simp_all
        have hdigit : e.isDigit = true := hds e (by simp)
        constructor
        · rintro rfl
          exact absurd hdigit (by decide)
        · rintro rfl
          exact absurd hdigit (by decide)
  have hscan : Base.scan (ds ++ rest) = (.ten, ds ++ rest) := by
    unfold Base.scan
    split
    · rename_i tail heq
      exact absurd rfl (hletter _ _ heq).1
    · rename_i tail heq
      exact absurd rfl (hletter _ _ heq).2
    · rfl
  have hrun : (ds ++ rest).takeWhile (Base.isDigit .ten) = ds := digitRun_append hds hrest
  rw [scan, Sign.scan_text_append _ hstart.noSign]
  dsimp only
  rw [hscan]
  dsimp only
  rw [hrun, if_neg hne]

/-- The number of such a run is read. -/
theorem readWhole_digits (hne : ds ≠ []) (hds : ∀ c ∈ ds, c.isDigit = true)
    (hrest : EndsDigits rest) (hbase : ∀ c ∈ rest.head?, c ≠ 'x' ∧ c ≠ 'X') :
    readWhole ((Sign.ofNegative negative).text ++ (ds ++ rest)) =
      some (Double.roundRatio negative (digitsValue ds) 1) := by
  rw [readWhole, trimStart_text_append _ (startsWithDigit_append hne hds rest),
    WholeLiteral.scan_digits hne hds hrest hbase, Option.bind_some, WholeLiteral.value]
  dsimp only
  rw [if_neg (by simp), Base.value_ten hds, Sign.isMinus_ofNegative]

end Switchboard
