import Switchboard.Json.Printer
import Switchboard.Json.Reader
import Switchboard.Proofs.Except
import Switchboard.Proofs.Number.Digits

/-!
# Numbers and strings in JSON text

A string is read back from its text whatever it holds: each character is read from the form in
which it stands there (`Json.readString_escapeChar`).

A number that is read up to the end of a text is read in front of anything that does not go on
with it (`Json.readNumber_append`), so whether a number is read back from its text does not depend
on where it stands (`Number.ReadsBack`).  An integer is if it fits 64 bits, and no other is
(`Number.readsBack_integer_iff`).  A double may not be: its digits are right, but the reader rounds
at every step (`Number.not_readsBack_drifting`).
-/

namespace Switchboard

/-! ## Numbers -/

theorem Sign.scan_cons_append (c : Char) (s rest : List Char) :
    scan (c :: s ++ rest) = ((scan (c :: s)).1, (scan (c :: s)).2 ++ rest) := by
  by_cases hplus : c = '+'
  · subst hplus
    rfl
  by_cases hminus : c = '-'
  · subst hminus
    rfl
  · have hnone : ∀ tail, scan (c :: tail) = (none, c :: tail) := by
      intro tail
      unfold scan
      split
      · simp_all
      · simp_all
      · rfl
    rw [List.cons_append, hnone, hnone]
    rfl

namespace Json

/-- The text does not go on with a number. -/
def EndsNumber (rest : List Char) : Prop :=
  ∀ c ∈ rest.head?, c.isDigit = false ∧ c ≠ '.' ∧ c ≠ 'e' ∧ c ≠ 'E'

variable {s rest digits after : List Char}

theorem EndsNumber.endsDigits (h : EndsNumber rest) : EndsDigits rest := fun c hc => (h c hc).1

theorem digitRun_append_of_endsDigits (s : List Char) (h : EndsDigits rest) :
    digitRun (s ++ rest) = digitRun s ∧ afterDigits (s ++ rest) = afterDigits s ++ rest := by
  induction s with
  | nil => exact ⟨digitRun_eq_nil h, afterDigits_eq_self h⟩
  | cons c s ih =>
      cases hc : c.isDigit with
      | true =>
          simp only [digitRun, afterDigits, List.cons_append, List.takeWhile_cons, hc, if_true,
            List.dropWhile_cons] at ih ⊢
          exact ⟨by rw [ih.1], ih.2⟩
      | false => simp [digitRun, afterDigits, hc]

theorem readDigits_append (hrest : EndsDigits rest) (h : readDigits s = .ok (digits, after)) :
    readDigits (s ++ rest) = .ok (digits, after ++ rest) := by
  cases s with
  | nil => simp [readDigits] at h
  | cons c s =>
      unfold readDigits at h ⊢
      obtain ⟨hrun, hafter⟩ := digitRun_append_of_endsDigits (c :: s) hrest
      dsimp only [List.cons_append] at h hrun hafter ⊢
      split at h
      · rename_i hdigit
        obtain ⟨rfl, rfl⟩ := Prod.mk.inj (Except.ok.inj h)
        rw [if_pos hdigit, hrun, hafter]
      · cases h

theorem readFraction_append {fraction : Option (List Char)} (hrest : EndsNumber rest)
    (h : readFraction s = .ok (fraction, after)) :
    readFraction (s ++ rest) = .ok (fraction, after ++ rest) := by
  by_cases hpoint : ∃ tail, s = '.' :: tail
  · obtain ⟨tail, rfl⟩ := hpoint
    obtain ⟨⟨digits, left⟩, hdigits, heq⟩ := exists_of_map_eq_ok h
    obtain ⟨rfl, rfl⟩ := Prod.mk.inj heq
    show (readDigits (tail ++ rest)).map _ = _
    rw [readDigits_append hrest.endsDigits hdigits]
    rfl
  · have hnone : ∀ t : List Char, (∀ tail, t ≠ '.' :: tail) → readFraction t = .ok (none, t) := by
      intro t ht
      unfold readFraction
      split
      · rename_i tail
        exact absurd rfl (ht tail)
      · rfl
    rw [hnone s fun tail htail => hpoint ⟨tail, htail⟩] at h
    obtain ⟨rfl, rfl⟩ := Prod.mk.inj (Except.ok.inj h)
    refine hnone _ fun tail htail => ?_
    cases s with
    | nil => exact (hrest '.' (by rw [show rest = _ from htail]; rfl)).2.1 rfl
    | cons c s => exact hpoint ⟨s, by rw [(List.cons.inj htail).1]⟩

theorem readExponent_append {exponent : Option Int} (hrest : EndsNumber rest)
    (h : readExponent s = .ok (exponent, after)) :
    readExponent (s ++ rest) = .ok (exponent, after ++ rest) := by
  cases s with
  | nil =>
      obtain ⟨rfl, rfl⟩ := Prod.mk.inj (Except.ok.inj h)
      cases rest with
      | nil => rfl
      | cons c rest =>
          have hmark := (hrest c rfl).2.2
          exact if_neg (by simp [hmark])
  | cons c s =>
      rw [readExponent] at h
      rw [List.cons_append, readExponent]
      split at h
      · rename_i hmark
        rw [if_pos hmark]
        cases s with
        | nil => cases h
        | cons d s =>
            rw [Sign.scan_cons_append]
            cases hscan : Sign.scan (d :: s) with
            | mk sign unsigned =>
                rw [hscan] at h
                obtain ⟨⟨digits, left⟩, hdigits, heq⟩ := exists_of_map_eq_ok h
                obtain ⟨rfl, rfl⟩ := Prod.mk.inj heq
                dsimp only
                rw [readDigits_append hrest.endsDigits hdigits]
                rfl
      · rename_i hmark
        rw [if_neg hmark]
        obtain ⟨rfl, rfl⟩ := Prod.mk.inj (Except.ok.inj h)
        rfl

/-- The parts of a number, and what they make. -/
theorem readNumber_eq_ok_iff {negative : Bool} {n : Number} :
    readNumber negative s = .ok (n, after) ↔
      ∃ whole afterWhole fraction afterFraction exponent,
        readDigits s = .ok (whole, afterWhole) ∧ ¬ (whole.head? = some '0' ∧ 1 < whole.length) ∧
        readFraction afterWhole = .ok (fraction, afterFraction) ∧
        readExponent afterFraction = .ok (exponent, after) ∧
        numberOf negative whole (fraction.getD []) (fraction.isNone && exponent.isNone) exponent =
          some n := by
  unfold readNumber
  constructor
  · intro h
    obtain ⟨⟨whole, afterWhole⟩, hwhole, h⟩ := exists_of_bind_eq_ok h
    dsimp only at h
    split at h
    · cases h
    rename_i hzero
    obtain ⟨⟨fraction, afterFraction⟩, hfraction, h⟩ := exists_of_bind_eq_ok h
    obtain ⟨⟨exponent, left⟩, hexponent, h⟩ := exists_of_bind_eq_ok h
    dsimp only at h
    split at h
    · rename_i number hnumber
      obtain ⟨rfl, rfl⟩ := Prod.mk.inj (Except.ok.inj h)
      exact ⟨whole, afterWhole, fraction, afterFraction, exponent, hwhole, hzero, hfraction,
        hexponent, hnumber⟩
    · cases h
  · rintro ⟨whole, afterWhole, fraction, afterFraction, exponent, hwhole, hzero, hfraction,
      hexponent, hnumber⟩
    rw [hwhole]
    show (if whole.head? = some '0' ∧ 1 < whole.length then _ else _) = _
    rw [if_neg hzero, hfraction]
    show (readExponent afterFraction >>= _) = _
    rw [hexponent]
    dsimp only [bind, Except.bind]
    rw [hnumber]

/-- A number is read in front of whatever does not go on with it. -/
theorem readNumber_append {negative : Bool} {n : Number} (hrest : EndsNumber rest)
    (h : readNumber negative s = .ok (n, after)) :
    readNumber negative (s ++ rest) = .ok (n, after ++ rest) := by
  obtain ⟨whole, afterWhole, fraction, afterFraction, exponent, hwhole, hzero, hfraction,
    hexponent, hnumber⟩ := readNumber_eq_ok_iff.1 h
  exact readNumber_eq_ok_iff.2 ⟨whole, afterWhole ++ rest, fraction, afterFraction ++ rest,
    exponent, readDigits_append hrest.endsDigits hwhole, hzero,
    readFraction_append hrest hfraction, readExponent_append hrest hexponent, hnumber⟩

/-! ### Integers -/

theorem le_foldl_pushDigit (ds : List Char) (n : ℕ) : n ≤ ds.foldl pushDigit n := by
  induction ds generalizing n with
  | nil => exact Nat.le_refl n
  | cons c ds ih =>
      have hnext : n ≤ pushDigit n c := by
        unfold pushDigit
        omega
      exact Nat.le_trans hnext (ih _)

/-- Digits that fit 64 bits are all taken. -/
theorem takeDigits_of_lt {ds : List Char} {n : ℕ} (h : ds.foldl pushDigit n < Nat.pow 2 64) :
    takeDigits n ds = (ds.foldl pushDigit n, []) := by
  induction ds generalizing n with
  | nil => rfl
  | cons c ds ih =>
      rw [List.foldl_cons] at h ⊢
      have hfits := Nat.lt_of_le_of_lt (le_foldl_pushDigit ds _) h
      rw [takeDigits, if_pos hfits, ih h]

theorem takeDigits_natText {n : ℕ} (h : n < Nat.pow 2 64) :
    takeDigits 0 (natText n) = (n, []) := by
  have hvalue : (natText n).foldl pushDigit 0 = n := digitsValue_natText n
  rw [← hvalue] at h
  rw [takeDigits_of_lt h, hvalue]

/-- A number of more than one digit does not begin with a zero. -/
theorem natText_noLeadingZero (n : ℕ) :
    ¬ ((natText n).head? = some '0' ∧ 1 < (natText n).length) := by
  rintro ⟨hzero, hlong⟩
  have hdigits : ∀ c ∈ natText n, c.isDigit = true := fun c => isDigit_of_mem_natText
  have hvalue := digitsValue_natText n
  cases htext : natText n with
  | nil => exact natText_ne_nil n htext
  | cons c ds =>
      rw [htext] at hzero hlong hdigits hvalue
      obtain rfl : c = '0' := Option.some.inj hzero
      have hsplit : digitsValue ('0' :: ds) = 0 * 10 ^ ds.length + digitsValue ds :=
        digitsValue_append ['0'] ds
      have hlt := digitsValue_lt fun d hd => hdigits d (List.mem_cons_of_mem _ hd)
      have hpos : 0 < ds.length := by simpa using hlong
      have hshort := (Nat.length_toDigits_le_iff (b := 10) (n := n) (by decide) hpos).2 (by omega)
      rw [show Nat.toDigits 10 n = '0' :: ds from htext, List.length_cons] at hshort
      omega

theorem readDigits_natText (n : ℕ) : readDigits (natText n) = .ok (natText n, []) := by
  have hdigits : ∀ c ∈ natText n, c.isDigit = true := fun c => isDigit_of_mem_natText
  have hends : EndsDigits [] := by simp [EndsDigits]
  cases htext : natText n with
  | nil => exact absurd htext (natText_ne_nil n)
  | cons c ds =>
      rw [htext] at hdigits
      have hrun := digitRun_append hdigits hends
      have hafter := afterDigits_append hdigits hends
      rw [List.append_nil] at hrun hafter
      rw [readDigits, if_pos (hdigits c List.mem_cons_self), hrun, hafter]

/-- The text of an integer of 64 bits is read as the integer. -/
theorem readNumber_natText {negative : Bool} {n : ℕ}
    (h : if negative then 0 < n ∧ n ≤ Nat.pow 2 63 else n < Nat.pow 2 64) :
    readNumber negative (natText n) =
      .ok (.integer (if negative then -(n : Int) else n), []) := by
  refine readNumber_eq_ok_iff.2 ⟨natText n, [], none, [], none, readDigits_natText n,
    natText_noLeadingZero n, rfl, rfl, ?_⟩
  have hfits : n < Nat.pow 2 64 := by
    cases negative with
    | false => exact h
    | true => exact Nat.lt_of_le_of_lt h.2 (by decide)
  rw [numberOf, takeDigits_natText hfits]
  dsimp only
  rw [if_pos]
  cases negative with
  | false => rfl
  | true => simpa using h

theorem takeDigits_lt {ds : List Char} {n : ℕ} (h : n < Nat.pow 2 64) :
    (takeDigits n ds).1 < Nat.pow 2 64 := by
  induction ds generalizing n with
  | nil => exact h
  | cons c ds ih =>
      rw [takeDigits]
      split
      · rename_i hfits
        exact ih hfits
      · exact h

/-- What is read as an integer fits 64 bits. -/
theorem integer_of_numberOf {negative isPlain : Bool} {whole fraction : List Char}
    {exponent : Option Int} {n : ℤ}
    (h : numberOf negative whole fraction isPlain exponent = some (.integer n)) :
    -2 ^ 63 ≤ n ∧ n < 2 ^ 64 := by
  have hlt : (takeDigits 0 whole).1 < Nat.pow 2 64 := takeDigits_lt (by decide)
  unfold numberOf at h
  dsimp only at h
  split at h
  · rename_i hfits
    simp only [Bool.and_eq_true, Bool.or_eq_true, Bool.not_eq_true', decide_eq_true_eq,
      Nat.pow_eq] at hfits hlt
    obtain ⟨-, hfits⟩ := hfits
    obtain rfl := Number.integer.inj (Option.some.inj h)
    cases negative with
    | false =>
        simp only [Bool.false_eq_true, if_false]
        omega
    | true =>
        simp only [Bool.true_eq_false, false_or] at hfits
        simp only [if_true]
        omega
  · obtain ⟨x, -, hx⟩ := Option.map_eq_some_iff.1 h
    cases hx

end Json

/-- The number is read back from its text. -/
def Number.ReadsBack (n : Number) : Prop :=
  ∃ negative unsigned, n.text = (if negative then ['-'] else []) ++ unsigned ∧
    Json.readNumber negative unsigned = .ok (n, [])

theorem Number.readsBack_integer_iff {n : ℤ} :
    (integer n).ReadsBack ↔ -2 ^ 63 ≤ n ∧ n < 2 ^ 64 := by
  constructor
  · rintro ⟨negative, unsigned, -, hread⟩
    obtain ⟨_, _, _, _, _, _, -, _, _, hnumber⟩ := Json.readNumber_eq_ok_iff.1 hread
    exact Json.integer_of_numberOf hnumber
  · rintro ⟨hlow, hhigh⟩
    refine ⟨decide (n < 0), natText n.natAbs, by simp [text, intText], ?_⟩
    have hvalue : n = if decide (n < 0) then -(n.natAbs : Int) else n.natAbs := by
      by_cases hn : n < 0
      · rw [if_pos (by simpa using hn)]
        omega
      · rw [if_neg (by simpa using hn)]
        omega
    rw [Json.readNumber_natText, ← hvalue]
    simp only [Nat.pow_eq]
    by_cases hn : n < 0
    · rw [if_pos (by simpa using hn)]
      omega
    · rw [if_neg (by simpa using hn)]
      omega

/-- The double nearest to `98765432.12345679`. -/
def Double.drifting : Double := ⟨false, 6628035952274293, -26, by decide⟩

/-- The next double behind it. -/
def Double.drifted : Double := ⟨false, 6628035952274294, -26, by decide⟩

/-- The reader rounds the digits without their point, and then the quotient by a power of ten, so
that a number can drift to its neighbour. -/
theorem Json.readNumber_drifting :
    Json.readNumber false (Number.double .drifting).text = .ok (.double .drifted, []) := by
  have htext : (Number.double .drifting).text =
      ['9', '8', '7', '6', '5', '4', '3', '2', '.', '1', '2', '3', '4', '5', '6', '7', '9'] := by
    decide +kernel
  rw [htext]
  rfl

theorem Number.not_readsBack_drifting : ¬ (double .drifting).ReadsBack := by
  rintro ⟨negative, unsigned, htext, hread⟩
  cases negative with
  | true =>
      have hsign : (double .drifting).text.head? ≠ some '-' := by decide +kernel
      rw [htext] at hsign
      exact hsign rfl
  | false =>
      obtain rfl : _ = unsigned := htext
      rw [Json.readNumber_drifting] at hread
      have hsame := (Prod.mk.inj (Except.ok.inj hread)).1
      exact absurd hsame (by decide)

namespace Json

/-! ## Strings -/

theorem readString_quote (done rest : List Char) :
    readString done ('"' :: rest) = .ok (String.ofList done.reverse, rest) := by
  rw [readString, if_pos rfl]

theorem readString_escape {c : Char} {done tail after : List Char}
    (h : readEscape tail = .ok (c, after)) :
    readString done ('\\' :: tail) = readString (c :: done) after := by
  rw [readString, if_neg (by decide), if_pos rfl]
  split
  · rename_i cause hcause
    rw [h] at hcause
    cases hcause
  · rename_i d left hd
    obtain ⟨rfl, rfl⟩ := Prod.mk.inj (Except.ok.inj (h.symm.trans hd))
    rfl

/-- Four digits of base sixteen are read as their number. -/
theorem readHex4_of_digits {n : ℕ} (hn : n < 32) (rest : List Char) :
    readHex4 ('0' :: '0' :: (n / 16).digitChar :: (n % 16).digitChar :: rest) = .ok (n, rest) := by
  have hdigits : ∀ k < 16, hexDigit? k.digitChar = some k ∧ k.digitChar.utf8Size = 1 := by decide
  obtain ⟨hhigh, hhighSize⟩ := hdigits (n / 16) (by omega)
  obtain ⟨hlow, hlowSize⟩ := hdigits (n % 16) (by omega)
  have hzero : hexDigit? '0' = some 0 := by decide
  have hvalue : ((0 * 16 + 0) * 16 + n / 16) * 16 + n % 16 = n := by omega
  rw [readHex4, if_neg]
  · simp only [hzero, hhigh, hlow, hvalue]
  · simp [octetCount, hhighSize, hlowSize, show ('0').utf8Size = 1 from rfl]

theorem readEscape_control {c : Char} (hc : c.toNat < 32) (rest : List Char) :
    readEscape ('u' :: '0' :: '0' :: (c.toNat / 16).digitChar :: (c.toNat % 16).digitChar :: rest) =
      .ok (c, rest) := by
  show readUnicode _ = _
  rw [readUnicode, readHex4_of_digits hc]
  show (if 0xDC00 ≤ c.toNat ∧ c.toNat ≤ 0xDFFF then _ else _) = _
  rw [if_neg (by omega), if_pos (by omega), Char.ofNat_toNat]

/-- A control character without a short form is written as the two digits of its number. -/
theorem escapeChar_control {c : Char} (hc : c.toNat < 32)
    (h : c.toNat ≠ 8 ∧ c.toNat ≠ 12 ∧ c ≠ '\n' ∧ c ≠ '\r' ∧ c ≠ '\t') :
    escapeChar c =
      ['\\', 'u', '0', '0', (c.toNat / 16).digitChar, (c.toNat % 16).digitChar] := by
  obtain ⟨hback, hfeed, hline, hreturn, htab⟩ := h
  have hquote : c ≠ '"' := by
    rintro rfl
    exact absurd hc (by decide)
  have hslash : c ≠ '\\' := by
    rintro rfl
    exact absurd hc (by decide)
  unfold escapeChar
  rw [if_neg hquote, if_neg hslash, if_neg hback, if_neg hfeed, if_neg hline, if_neg hreturn,
    if_neg htab]
  by_cases hsmall : c.toNat < 16
  · rw [if_pos hsmall, Text.hexText, Nat.toDigits_of_lt_base hsmall, Nat.div_eq_of_lt hsmall,
      Nat.mod_eq_of_lt hsmall]
    rfl
  · have hdiv : c.toNat / 16 = 1 := by omega
    rw [if_neg hsmall, if_pos hc, Text.hexText, Nat.toDigits_of_base_le (by decide) (by omega),
      Nat.toDigits_of_lt_base (by omega)]
    rfl

/-- A character is read from the form in which it stands in a string. -/
theorem readString_escapeChar (c : Char) (done rest : List Char) :
    readString done (escapeChar c ++ rest) = readString (c :: done) rest := by
  by_cases hquote : c = '"'
  · subst hquote
    exact readString_escape rfl
  by_cases hslash : c = '\\'
  · subst hslash
    exact readString_escape rfl
  by_cases hcontrol : c.toNat < 32
  · by_cases hshort : c.toNat ≠ 8 ∧ c.toNat ≠ 12 ∧ c ≠ '\n' ∧ c ≠ '\r' ∧ c ≠ '\t'
    · rw [escapeChar_control hcontrol hshort]
      exact readString_escape (readEscape_control hcontrol rest)
    · obtain rfl | rfl | rfl | rfl | rfl : c = Char.ofNat 8 ∨ c = Char.ofNat 12 ∨ c = '\n' ∨
          c = '\r' ∨ c = '\t' := by
        have hcode : ∀ n, c.toNat = n → c = Char.ofNat n := by
          rintro n rfl
          exact (Char.ofNat_toNat c).symm
        by_contra hlong
        simp only [not_or] at hlong
        exact hshort ⟨fun h => hlong.1 (hcode 8 h), fun h => hlong.2.1 (hcode 12 h), hlong.2.2⟩
      all_goals exact readString_escape rfl
  · have hplain : escapeChar c = [c] := by
      have hother : c.toNat ≠ 8 ∧ c.toNat ≠ 12 ∧ ¬ c.toNat < 16 := by omega
      have hline : c ≠ '\n' ∧ c ≠ '\r' ∧ c ≠ '\t' := by
        refine ⟨?_, ?_, ?_⟩
        all_goals
          rintro rfl
          exact hcontrol (by decide)
      simp [escapeChar, hquote, hslash, hother, hline, hcontrol]
    rw [hplain, List.singleton_append, readString, if_neg hquote, if_neg hslash, if_neg hcontrol]

theorem readString_flatMap_escapeChar (cs done rest : List Char) :
    readString done (cs.flatMap escapeChar ++ '"' :: rest) =
      .ok (String.ofList (done.reverse ++ cs), rest) := by
  induction cs generalizing done with
  | nil => rw [List.flatMap_nil, List.nil_append, readString_quote, List.append_nil]
  | cons c cs ih =>
      rw [List.flatMap_cons, List.append_assoc, readString_escapeChar, ih, List.reverse_cons,
        List.append_assoc, List.singleton_append]

/-- A string is read from its text, without the opening quotation mark. -/
theorem readString_stringText (s : String) (rest : List Char) :
    readString [] (s.toList.flatMap escapeChar ++ '"' :: rest) = .ok (s, rest) := by
  rw [readString_flatMap_escapeChar, List.reverse_nil, List.nil_append, String.ofList_toList]

end Json

end Switchboard
