import Switchboard.Proofs.Number.Longest
import Switchboard.Proofs.Text.Positions

/-!
# Reading a number by positions

The number at the start of a text can be found without taking the text apart.  The reader
`readNumberAt` goes through the octets, counts digits and keeps the position behind what
it has seen; only the name of infinity and the finished numeral are cut out of the text.
Every cut and every run of octets is asked for at a position that might not exist, and
then there is no answer at all.

There is always one.  Whatever the reader has passed is of ASCII, so it stands where a
character begins, and what it has not passed is what the reader of characters has left
(`reaches_fractionEnd`, `reaches_exponentEnd`).  So both find the same numeral, which is
the longest one (`readNumber_longest`).
-/

namespace Switchboard

open Text.Utf8

/-! ## The reader -/

/-- The octet is that of a digit. -/
def isDigitOctet (b : Nat) : Bool := '0'.toNat ≤ b && b ≤ '9'.toNat

/-- The number of digits at the start of the octets. -/
def digitCount (octets : List Nat) : Nat := (octets.takeWhile isDigitOctet).length

/-- The number of octets of the sign at a position. -/
def signWidth (octets : List Nat) (n : Nat) : Nat :=
  if octets[n]? = some '+'.toNat ∨ octets[n]? = some '-'.toNat then 1 else 0

/-- The number of digits behind the point at a position. -/
def fractionCount (octets : List Nat) (n : Nat) : Option Nat :=
  if octets[n]? = some '.'.toNat then (from? octets (n + 1)).map digitCount else some 0

/-- The position behind the point and its digits, if there is a digit on one side of it. -/
def fractionEnd (octets : List Nat) (n whole fraction : Nat) : Nat :=
  if octets[n]? = some '.'.toNat ∧ 0 < whole + fraction then n + 1 + fraction else n

/-- The position behind the exponent, if there is one that has digits. -/
def exponentEnd (octets : List Nat) (n : Nat) : Nat :=
  if octets[n]? = some 'e'.toNat ∨ octets[n]? = some 'E'.toNat then
    let digits := n + 1 + signWidth octets (n + 1)
    let count := digitCount ((from? octets digits).getD [])
    if 0 < count then digits + count else n
  else n

/-- The number of a text that is one numeral. -/
def Literal.ofText? (cs : List Char) : Option Rounded :=
  match Literal.scan cs with
  | some (literal, []) => some literal.value
  | _ => none

/-- The number at the start of a text, after any blanks, found by positions; no answer where a
position does not exist. -/
def readNumberAt (text : List Char) : Option (Option Rounded) := do
  let start := Text.trimStart text
  let octets := encode start
  let sign := signWidth octets 0
  let (_, unsigned) ← cutAt? start sign
  if (Text.dropStart? infinityName unsigned).isSome then
    some (some (.infinite (start.head? == some '-')))
  else
    let whole := digitCount (← from? octets sign)
    let fraction ← fractionCount octets (sign + whole)
    if whole + fraction = 0 then some none
    else
      let stop := exponentEnd octets (fractionEnd octets (sign + whole) whole fraction)
      let (numeral, _) ← cutAt? start stop
      some (Literal.ofText? numeral)

/-! ## What the parts count -/

theorem toNat_lt_of_isDigit {c : Char} (h : c.isDigit = true) : c.toNat < 0x80 := by
  have := toNat_range_of_isDigit h
  omega

theorem ascii_digitRun (cs : List Char) : ∀ c ∈ digitRun cs, c.toNat < 0x80 :=
  fun _ hc => toNat_lt_of_isDigit (List.mem_takeWhile_imp hc)

theorem isDigitOctet_toNat (c : Char) : isDigitOctet c.toNat = c.isDigit := by
  simp only [isDigitOctet, Char.isDigit, ge_iff_le, UInt32.le_iff_toNat_le]
  rfl

theorem isDigitOctet_head {c : Char} {b : Nat} {octets : List Nat}
    (hb : encodeChar c = b :: octets) : isDigitOctet b = c.isDigit := by
  by_cases hascii : b < 0x80
  · rw [ascii_of_mem_encodeChar (hb ▸ List.mem_cons_self) hascii, isDigitOctet_toNat]
  · have hnot : isDigitOctet b = false := by
      have hhigh : ¬ b ≤ '9'.toNat := fun hle => hascii (Nat.lt_of_le_of_lt hle (by decide))
      rw [isDigitOctet, Bool.and_eq_false_iff]
      exact .inr (decide_eq_false hhigh)
    rw [hnot]
    cases hdigit : c.isDigit with
    | false => rfl
    | true =>
        rw [encodeChar_of_ascii (toNat_lt_of_isDigit hdigit)] at hb
        obtain ⟨rfl, -⟩ := List.cons.inj hb
        exact absurd (toNat_lt_of_isDigit hdigit) hascii

/-- The octets of digits are counted as digits, and no other octet is. -/
theorem digitCount_encode (cs : List Char) : digitCount (encode cs) = (digitRun cs).length := by
  induction cs with
  | nil => rfl
  | cons c cs ih =>
      obtain ⟨b, octets, hb⟩ := List.exists_cons_of_ne_nil (encodeChar_ne_nil c)
      have hfirst := isDigitOctet_head hb
      unfold digitCount digitRun at ih ⊢
      rw [encode_cons]
      by_cases hdigit : c.isDigit = true
      · rw [encodeChar_of_ascii (toNat_lt_of_isDigit hdigit), List.singleton_append,
          List.takeWhile_cons_of_pos (by rwa [isDigitOctet_toNat]),
          List.takeWhile_cons_of_pos hdigit, List.length_cons, List.length_cons, ih]
      · rw [hb, List.cons_append, List.takeWhile_cons_of_neg (by rwa [hfirst]),
          List.takeWhile_cons_of_neg hdigit, List.length_nil, List.length_nil]

variable {text rest : List Char} {n : Nat}

theorem signWidth_encode (h : Reaches text n rest) :
    signWidth (encode text) n = (Sign.scan rest).1.text.length := by
  have hplus := h.getElem?_eq_some_iff (c := '+') (by decide)
  have hminus := h.getElem?_eq_some_iff (c := '-') (by decide)
  unfold signWidth
  simp only [hplus, hminus]
  cases rest with
  | nil => rfl
  | cons c rest =>
      by_cases hsign : c = '+' ∨ c = '-'
      · rw [if_pos (by simpa using hsign)]
        rcases hsign with rfl | rfl <;> rfl
      · have hno : NoSign (c :: rest) := by simpa [NoSign, not_or] using hsign
        rw [if_neg (by simpa using hsign)]
        exact congrArg (fun signed => signed.1.text.length) (Sign.scan_text_append .none hno).symm

theorem reaches_sign (h : Reaches text n rest) :
    Reaches text (n + signWidth (encode text) n) (Sign.scan rest).2 := by
  rw [signWidth_encode h]
  refine Reaches.append ?_ ?_
  · rwa [Sign.text_scan]
  · cases (Sign.scan rest).1 <;> simp [Sign.text]

theorem reaches_digits (h : Reaches text n rest) :
    Reaches text (n + (digitRun rest).length) (afterDigits rest) := by
  refine Reaches.append ?_ (ascii_digitRun rest)
  rwa [digitRun_append_afterDigits]

theorem isMinus_scan (cs : List Char) :
    (Sign.scan cs).1.isMinus = (cs.head? == some '-') := by
  unfold Sign.scan
  split
  · rfl
  · rfl
  · rename_i hplus hminus
    cases cs with
    | nil => rfl
    | cons c cs =>
        have hne : c ≠ '-' := by
          rintro rfl
          exact hminus cs rfl
        simp [Sign.isMinus, hne]

/-- The position behind a point and its digits is the one that the reader of characters has reached,
and both miss the same numerals. -/
theorem reaches_fractionEnd (h : Reaches text n rest) (whole : List Char) :
    ∃ fraction, fractionCount (encode text) n = some fraction ∧
      (whole.length + fraction = 0 ↔ whole = [] ∧ (Literal.scanFraction whole rest).1 = none) ∧
      Reaches text (fractionEnd (encode text) n whole.length fraction)
        (Literal.scanFraction whole rest).2 := by
  have hpoint := h.getElem?_eq_some_iff (c := '.') (by decide)
  by_cases hhead : rest.head? = some '.'
  · obtain ⟨tail, rfl⟩ := List.head?_eq_some_iff.1 hhead
    have hnext : Reaches text (n + 1) tail := h.cons (by decide)
    refine ⟨(digitRun tail).length, ?_, ?_, ?_⟩
    · rw [fractionCount, if_pos (hpoint.2 hhead), hnext.from?, Option.map_some, digitCount_encode]
    · rw [Literal.scanFraction]
      by_cases hnone : whole = [] ∧ digitRun tail = []
      · simp [hnone]
      · rw [if_neg hnone]
        simpa using hnone
    · rw [Literal.scanFraction, fractionEnd]
      by_cases hnone : whole = [] ∧ digitRun tail = []
      · rw [if_pos hnone, if_neg (by simp [hnone])]
        exact h
      · have hpos : 0 < whole.length + (digitRun tail).length :=
          Nat.pos_of_ne_zero fun hzero => hnone (by simpa using hzero)
        rw [if_neg hnone, if_pos ⟨hpoint.2 hhead, hpos⟩]
        exact reaches_digits hnext
  · have hscan : Literal.scanFraction whole rest = (none, rest) :=
      Literal.scanFraction_of_head fun c hc hdot => hhead (hdot ▸ hc)
    refine ⟨0, ?_, ?_, ?_⟩
    · rw [fractionCount, if_neg (mt hpoint.1 hhead)]
    · simp [hscan]
    · rw [fractionEnd, if_neg fun hboth => hhead (hpoint.1 hboth.1), hscan]
      exact h

/-- The position behind an exponent is the one that the reader of characters has reached. -/
theorem reaches_exponentEnd (h : Reaches text n rest) :
    Reaches text (exponentEnd (encode text) n) (Exponent.scan rest).2 := by
  have hsmall := h.getElem?_eq_some_iff (c := 'e') (by decide)
  have hlarge := h.getElem?_eq_some_iff (c := 'E') (by decide)
  unfold exponentEnd
  simp only [hsmall, hlarge]
  cases rest with
  | nil => exact h
  | cons c tail =>
      rw [Exponent.scan]
      by_cases hmark : c = 'e' ∨ c = 'E'
      · have hnext : Reaches text (n + 1) tail := by
          refine h.cons ?_
          rcases hmark with rfl | rfl <;> decide
        have hdigits := reaches_sign hnext
        rw [if_pos (by simpa using hmark), if_pos hmark]
        dsimp only
        rw [hdigits.from?, Option.getD_some, digitCount_encode]
        by_cases hnil : digitRun (Sign.scan tail).2 = []
        · rw [if_pos hnil, if_neg (by simp [hnil])]
          exact h
        · rw [if_neg hnil, if_pos (List.length_pos_iff.2 hnil)]
          exact reaches_digits hdigits
      · rw [if_neg (by simpa using hmark), if_neg hmark]
        exact h

theorem Literal.ofText?_text {l : Literal} (h : l.WellFormed) : ofText? l.text = some l.value := by
  rw [ofText?, scan_text h]

/-- Every position exists, and the reader of characters finds the same. -/
theorem readNumberAt_eq (text : List Char) : readNumberAt text = some (readNumber text) := by
  unfold readNumberAt readNumber
  dsimp only
  generalize Text.trimStart text = start
  have hsign := reaches_sign (Reaches.start start)
  rw [Nat.zero_add] at hsign
  obtain ⟨before, hcut, -⟩ := hsign.cutAt?
  rw [hcut]
  show (if _ then _ else _) = _
  by_cases hname : (Text.dropStart? infinityName (Sign.scan start).2).isSome = true
  · rw [if_pos hname, if_pos hname, isMinus_scan]
  rw [if_neg hname, if_neg hname, hsign.from?]
  show ((fractionCount _ _).bind fun _ => _) = _
  rw [digitCount_encode]
  obtain ⟨fraction, hfraction, hnone, hpoint⟩ :=
    reaches_fractionEnd (reaches_digits hsign) (digitRun (Sign.scan start).2)
  rw [hfraction, Option.bind_some]
  by_cases hzero : (digitRun (Sign.scan start).2).length + fraction = 0
  · have hscan : Literal.scan start = none := if_pos (hnone.1 hzero)
    rw [if_pos hzero, hscan]
    rfl
  · obtain ⟨numeral, hnumeral, htext⟩ := (reaches_exponentEnd hpoint).cutAt?
    rw [if_neg hzero, hnumeral]
    show some (Literal.ofText? numeral) = _
    obtain ⟨l, hscan⟩ : ∃ l, Literal.scan start = some (l, (Exponent.scan (Literal.scanFraction
        (digitRun (Sign.scan start).2) (afterDigits (Sign.scan start).2)).2).2) :=
      ⟨_, if_neg (mt hnone.2 hzero)⟩
    obtain ⟨hl, hstart⟩ := Literal.wellFormed_of_scan hscan
    obtain rfl : numeral = l.text := List.append_cancel_right (htext.trans hstart.symm)
    rw [hscan, Literal.ofText?_text hl]
    rfl

/--
**The longest numeral**: the reader goes only to positions that exist and cuts only where a
character ends; it finds no number exactly where the text, without the blanks in front, starts with
no numeral, and otherwise the number that the longest numeral at its start denotes.
-/
theorem readNumber_longest (text : List Char) :
    readNumberAt text = some (readNumber text) ∧
      (readNumber text = none ↔
        ∀ n : Numeral, n.WellFormed → ¬ n.text <+: Text.trimStart text) ∧
      ∀ r, readNumber text = some r ↔
        ∃ n : Numeral, n.IsLongest (Text.trimStart text) ∧ n.Denotes r := by
  refine ⟨readNumberAt_eq text, ?_, fun r => ?_⟩
  · rw [Numeral.readNumber_eq, Option.map_eq_none_iff, Numeral.scan_eq_none_iff]
  · rw [Numeral.readNumber_eq, Option.map_eq_some_iff]
    constructor
    · rintro ⟨⟨n, rest⟩, hscan, hvalue⟩
      exact ⟨n, Numeral.isLongest_of_scan hscan, Numeral.value_eq_iff.1 hvalue⟩
    · rintro ⟨n, hlongest, hdenotes⟩
      obtain ⟨rest, hscan⟩ := Numeral.exists_scan_iff.2 hlongest
      exact ⟨(n, rest), hscan, Numeral.value_eq_iff.2 hdenotes⟩

end Switchboard
