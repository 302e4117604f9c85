import Switchboard.Proofs.Number.Numeral
import Switchboard.Proofs.Number.Places
import Switchboard.Proofs.Number.Positions

/-!
# The run of digits at the start of a text

A whole number is taken from a text step by step: a sign if there is one, the name of base
sixteen if it is there, and all the digits of the base that follow.  Every text starts in
one such way only (`WholeStart.begins_iff`), the digits may be missing.

The number is read in two ways.  What fits 64 bits is counted digit by digit and then
rounded; a longer run of base ten is read as a decimal numeral.  Both are the one rounding
of the number that the run denotes, so the end of the 64 bits does not show
(`readWholeAt_eq`).  For base sixteen there is no second way: a run past 64 bits gives no
number, and this is the only case where a run gives none (`readWhole_reads_iff`).
-/

namespace Switchboard

open Text.Utf8

/-! ## Signs and names of bases -/

theorem Sign.scan_eq_iff {cs rest : List Char} {s : Sign} :
    Sign.scan cs = (s, rest) ↔ s.text ++ rest = cs ∧ (s = .none → NoSign cs) := by
  constructor
  · intro h
    have htext := Sign.text_scan cs
    rw [h] at htext
    refine ⟨htext, ?_⟩
    rintro rfl c hc
    obtain ⟨tail, rfl⟩ := List.head?_eq_some_iff.1 hc
    constructor
    · rintro rfl
      exact absurd (congrArg Prod.fst h) (by simp [Sign.scan])
    · rintro rfl
      exact absurd (congrArg Prod.fst h) (by simp [Sign.scan])
  · rintro ⟨rfl, hsign⟩
    cases s with
    | plus => rfl
    | minus => rfl
    | none => exact Sign.scan_text_append .none (hsign rfl)

namespace Base

/-- The name of the base: `0x` or `0X` for base sixteen, nothing for base ten. -/
def IsNamed : Base → List Char → Prop
  | ten, name => name = []
  | sixteen, name => name = ['0', 'x'] ∨ name = ['0', 'X']

/-- The text starts with the name of base sixteen. -/
def StartsSixteen (cs : List Char) : Prop := ∃ name, IsNamed sixteen name ∧ name <+: cs

theorem scan_eq_iff {cs rest : List Char} {b : Base} :
    scan cs = (b, rest) ↔
      (∃ name, b.IsNamed name ∧ name ++ rest = cs) ∧ (b = ten → ¬ StartsSixteen cs) := by
  constructor
  · intro h
    unfold scan at h
    split at h
    · obtain ⟨rfl, rfl⟩ := Prod.mk.inj h
      exact ⟨⟨_, .inl rfl, rfl⟩, by simp⟩
    · obtain ⟨rfl, rfl⟩ := Prod.mk.inj h
      exact ⟨⟨_, .inr rfl, rfl⟩, by simp⟩
    · rename_i hsmall hcapital
      obtain ⟨rfl, rfl⟩ := Prod.mk.inj h
      refine ⟨⟨[], rfl, rfl⟩, ?_⟩
      rintro - ⟨name, rfl | rfl, tail, rfl⟩
      · exact hsmall tail rfl
      · exact hcapital tail rfl
  · rintro ⟨⟨name, hname, rfl⟩, hten⟩
    cases b with
    | sixteen => rcases hname with rfl | rfl <;> rfl
    | ten =>
        obtain rfl : name = [] := hname
        unfold scan
        split
        · rename_i tail heq
          exact absurd ⟨_, .inl rfl, tail, heq.symm⟩ (hten rfl)
        · rename_i tail heq
          exact absurd ⟨_, .inr rfl, tail, heq.symm⟩ (hten rfl)
        · rfl

/-- The run is not too long for the base: one of base sixteen fits 64 bits. -/
def Fits (b : Base) (run : List Char) : Prop := b = ten ∨ b.placeValue run < Nat.pow 2 64

instance (b : Base) (run : List Char) : Decidable (b.Fits run) := inferInstanceAs (Decidable (_ ∨ _))

variable {b : Base} {run rest : List Char}

theorem not_fits_iff : ¬ b.Fits run ↔ b = sixteen ∧ Nat.pow 2 64 ≤ b.placeValue run := by
  cases b with
  | ten => simp [Fits]
  | sixteen => simp [Fits]

/-- A run is taken whole, and nothing behind it. -/
theorem takeWhile_isDigit (hrun : ∀ c ∈ run, b.HasDigit c)
    (hrest : ∀ c ∈ rest.head?, ¬ b.HasDigit c) :
    (run ++ rest).takeWhile b.isDigit = run ∧ (run ++ rest).dropWhile b.isDigit = rest := by
  have hall : ∀ c ∈ run, b.isDigit c = true := fun c hc => isDigit_iff.2 (hrun c hc)
  rw [List.takeWhile_append_of_pos hall, List.dropWhile_append_of_pos hall]
  cases rest with
  | nil => exact ⟨List.append_nil run, rfl⟩
  | cons c rest =>
      have hc : ¬ b.isDigit c = true := mt isDigit_iff.1 (hrest c rfl)
      rw [List.takeWhile_cons_of_neg hc, List.dropWhile_cons_of_neg hc]
      exact ⟨List.append_nil run, rfl⟩

theorem not_hasDigit_of_mem_head?_dropWhile {cs : List Char} :
    ∀ c ∈ (cs.dropWhile b.isDigit).head?, ¬ b.HasDigit c := by
  intro c hc
  have hnot := List.head?_dropWhile_not b.isDigit cs
  rw [show (cs.dropWhile b.isDigit).head? = some c from hc] at hnot
  rw [← isDigit_iff]
  simp [hnot]

end Base

/-! ## How a text starts -/

/-- The start of a text as a whole number is read from it. -/
structure WholeStart where
  sign : Sign
  base : Base
  /-- The digits of the base, which may be missing. -/
  digits : List Char
  /-- What is left of the text. -/
  rest : List Char
  deriving DecidableEq, Repr

namespace WholeStart

/-- The text starts so: with its sign if it has one, with the name of base sixteen if it goes on with
it, and with all the digits of the base that follow. -/
structure Begins (s : WholeStart) (cs : List Char) : Prop where
  text : ∃ name, s.base.IsNamed name ∧ s.sign.text ++ (name ++ (s.digits ++ s.rest)) = cs
  sign : s.sign = .none → NoSign cs
  base : s.base = .ten → ¬ Base.StartsSixteen (s.digits ++ s.rest)
  digits : ∀ c ∈ s.digits, s.base.HasDigit c
  ends : ∀ c ∈ s.rest.head?, ¬ s.base.HasDigit c

/-- The start of a text. -/
def of (cs : List Char) : WholeStart :=
  let (sign, unsigned) := Sign.scan cs
  let (base, after) := Base.scan unsigned
  ⟨sign, base, after.takeWhile base.isDigit, after.dropWhile base.isDigit⟩

variable {s : WholeStart} {cs : List Char}

theorem begins_of (cs : List Char) : (of cs).Begins cs := by
  obtain ⟨hsign, hnoSign⟩ := Sign.scan_eq_iff.1 (Prod.eta (Sign.scan cs)).symm
  obtain ⟨⟨name, hname, hbase⟩, hten⟩ :=
    Base.scan_eq_iff.1 (Prod.eta (Base.scan (Sign.scan cs).2)).symm
  have hafter : (of cs).digits ++ (of cs).rest = (Base.scan (Sign.scan cs).2).2 :=
    List.takeWhile_append_dropWhile
  refine ⟨⟨name, hname, ?_⟩, hnoSign, fun h => ?_, fun c hc => ?_,
    Base.not_hasDigit_of_mem_head?_dropWhile⟩
  · rw [hafter, hbase]
    exact hsign
  · have hnone : name = [] := by
      have hname : Base.IsNamed (of cs).base name := hname
      rwa [h] at hname
    rw [hnone, List.nil_append] at hbase
    rw [hafter, hbase]
    exact hten h
  · exact Base.isDigit_iff.1 (List.mem_takeWhile_imp hc)

/-- Every text starts in one way. -/
theorem begins_iff : s.Begins cs ↔ s = of cs := by
  constructor
  · rintro ⟨⟨name, hname, htext⟩, hsign, hten, hdigits, hends⟩
    have hscan := Sign.scan_eq_iff.2 ⟨htext, hsign⟩
    have hbase : Base.scan (name ++ (s.digits ++ s.rest)) = (s.base, s.digits ++ s.rest) := by
      refine Base.scan_eq_iff.2 ⟨⟨name, hname, rfl⟩, fun h => ?_⟩
      obtain rfl : name = [] := by rwa [h] at hname
      exact hten h
    obtain ⟨htake, hdrop⟩ := Base.takeWhile_isDigit hdigits hends
    rw [of, hscan]
    dsimp only
    rw [hbase]
    dsimp only
    rw [htake, hdrop]
  · rintro rfl
    exact begins_of cs

theorem scan_eq (cs : List Char) :
    WholeLiteral.scan cs =
      if (of cs).digits = [] then none else some ⟨(of cs).sign, (of cs).base, (of cs).digits⟩ := rfl

/-- The digits are missing where the text does not go on with one. -/
theorem Begins.digits_eq_nil_iff (h : s.Begins cs) :
    s.digits = [] ↔ ∀ c ∈ (s.digits ++ s.rest).head?, ¬ s.base.HasDigit c := by
  constructor
  · intro hnil
    rw [hnil, List.nil_append]
    exact h.ends
  · intro hhead
    cases hdigits : s.digits with
    | nil => rfl
    | cons c digits =>
        have hc : s.base.HasDigit c := h.digits c (by rw [hdigits]; exact List.mem_cons_self)
        exact absurd hc (hhead c (by rw [hdigits]; rfl))

/-- The result is the number of the run, rounded, and there is none where there is no digit. -/
def Reads (s : WholeStart) (result : Option Rounded) : Prop :=
  (result = none ↔ ∀ c ∈ (s.digits ++ s.rest).head?, ¬ s.base.HasDigit c) ∧
    ∀ r, result = some r ↔
      s.digits ≠ [] ∧ r.RoundsFrom s.sign.isMinus (s.base.placeValue s.digits)

/-- The number of the run, if there is one and it is not too long. -/
def value (s : WholeStart) : Option Rounded :=
  if s.digits ≠ [] ∧ s.base.Fits s.digits then
    some (Double.roundRatio s.sign.isMinus (s.base.placeValue s.digits) 1)
  else none

end WholeStart

/-! ## The number of a run -/

theorem readWhole_eq (text : List Char) :
    readWhole text = (WholeStart.of (Text.trimStart text)).value := by
  have hbegins := WholeStart.begins_of (Text.trimStart text)
  generalize hs : WholeStart.of (Text.trimStart text) = s at hbegins ⊢
  have hvalue := Base.value_eq_placeValue hbegins.digits
  rw [readWhole, WholeStart.scan_eq, hs, WholeStart.value]
  by_cases hnil : s.digits = []
  · rw [if_pos hnil, if_neg fun h => h.1 hnil]
    rfl
  · rw [if_neg hnil, Option.bind_some, WholeLiteral.value]
    dsimp only
    rw [hvalue]
    by_cases hfits : s.base.Fits s.digits
    · rw [if_neg fun hlarge => Base.not_fits_iff.2 hlarge hfits, if_pos ⟨hnil, hfits⟩]
    · rw [if_pos (Base.not_fits_iff.1 hfits), if_neg fun h => hfits h.2]

/-- The number is that of the run, unless the run is too long. -/
theorem WholeStart.Begins.reads_value_iff {s : WholeStart} {cs : List Char} (h : s.Begins cs) :
    s.Reads s.value ↔ s.base.Fits s.digits := by
  unfold Reads value
  rw [← h.digits_eq_nil_iff]
  by_cases hnil : s.digits = []
  · have hfits : s.base.Fits s.digits := by
      refine .inr ?_
      rw [hnil]
      exact Nat.pow_pos (by decide)
    rw [if_neg fun hboth => hboth.1 hnil]
    simpa [hnil] using hfits
  · by_cases hfits : s.base.Fits s.digits
    · rw [if_pos ⟨hnil, hfits⟩]
      simp [hnil, hfits, Double.roundRatio_natural_eq_iff]
    · rw [if_neg fun hboth => hfits hboth.2]
      simp [hnil, hfits]

/-! ## The reader with two ways -/

/-- The number of a run: what fits 64 bits is counted, and a longer run of base ten is read as a
decimal numeral. -/
def Base.numberOf? (b : Base) (run : List Char) : Option Rounded :=
  match b.word? run with
  | some n => some (Double.ofNat n)
  | none => if b = .ten then Literal.ofText? run else none

/-- The whole number at the start of a text, after any blanks. No answer where a position does not
exist. -/
def readWholeAt (text : List Char) : Option (Option Rounded) := do
  let start := Text.trimStart text
  let (_, unsigned) ← cutAt? start (signWidth (encode start) 0)
  let (base, after) := Base.scan unsigned
  let count := (after.takeWhile base.isDigit).length
  if count = 0 then some none
  else
    let (run, _) ← cutAt? after count
    some ((base.numberOf? run).map fun r => if start.head? == some '-' then r.neg else r)

/-- A run of base ten is a decimal numeral. -/
theorem Literal.ofText?_digits {run : List Char} (hne : run ≠ [])
    (hrun : ∀ c ∈ run, c.isDigit = true) :
    ofText? run = some (Double.roundRatio false (digitsValue run) 1) := by
  have hl : (⟨.none, run, none, none⟩ : Literal).WellFormed := ⟨hrun, by simp, .inl hne, by simp⟩
  have htext : (⟨.none, run, none, none⟩ : Literal).text = run := by simp [text, Sign.text]
  have hread := ofText?_text hl
  rw [htext] at hread
  rw [hread, ← Double.ofDecimal_natural]
  simp [value, Sign.isMinus]

/-- Both ways lead to the number of the run, rounded once. -/
theorem Base.numberOf?_eq {b : Base} {run : List Char} (hne : run ≠ [])
    (hrun : ∀ c ∈ run, b.HasDigit c) :
    b.numberOf? run =
      if b.Fits run then some (Double.roundRatio false (b.placeValue run) 1) else none := by
  rw [numberOf?, word?_eq, value_eq_placeValue hrun]
  by_cases hsmall : b.placeValue run < Nat.pow 2 64
  · have hfits : b.Fits run := .inr hsmall
    rw [if_pos hsmall, if_pos hfits]
    rfl
  · rw [if_neg hsmall]
    dsimp only
    cases b with
    | sixteen =>
        have hnot : ¬ Base.sixteen.Fits run := not_or.2 ⟨by decide, hsmall⟩
        rw [if_neg (by decide), if_neg hnot]
    | ten =>
        have hfits : Base.ten.Fits run := .inl rfl
        have hdigits : ∀ c ∈ run, c.isDigit = true := fun c hc => isDigit_iff.2 (hrun c hc)
        rw [if_pos rfl, if_pos hfits, Literal.ofText?_digits hne hdigits,
          ← value_ten hdigits, value_eq_placeValue hrun]

/-- Every position exists, and the end of the 64 bits does not show in base ten. -/
theorem readWholeAt_eq (text : List Char) : readWholeAt text = some (readWhole text) := by
  rw [readWhole_eq]
  unfold readWholeAt
  dsimp only
  generalize Text.trimStart text = start
  obtain ⟨before, hsign, -⟩ := (reaches_sign (Reaches.start start)).cutAt?
  rw [Nat.zero_add] at hsign
  have hbegins := WholeStart.begins_of start
  have hrun : cutAt? (Base.scan (Sign.scan start).2).2 (WholeStart.of start).digits.length =
      some ((WholeStart.of start).digits, (WholeStart.of start).rest) := by
    have hascii : ∀ c ∈ (WholeStart.of start).digits, c.toNat < 0x80 :=
      fun c hc => Base.toNat_lt_of_hasDigit (hbegins.digits c hc)
    exact cutAt?_eq_some_iff.2 ⟨List.takeWhile_append_dropWhile, length_encode_of_ascii hascii⟩
  rw [hsign]
  show (if (WholeStart.of start).digits.length = 0 then _ else _) = _
  rw [WholeStart.value]
  by_cases hnil : (WholeStart.of start).digits = []
  · rw [if_pos (by rw [hnil]; rfl), if_neg fun h => h.1 hnil]
  · rw [if_neg (mt List.length_eq_zero_iff.1 hnil)]
    show (cutAt? _ (WholeStart.of start).digits.length).bind _ = _
    rw [hrun, Option.bind_some]
    show some (((WholeStart.of start).base.numberOf? _).map _) = _
    rw [Base.numberOf?_eq hnil hbegins.digits]
    by_cases hfits : (WholeStart.of start).base.Fits (WholeStart.of start).digits
    · rw [if_pos hfits, if_pos ⟨hnil, hfits⟩, Option.map_some, ← isMinus_scan]
      exact congrArg (some ∘ some) (Double.roundRatio_signed _ _)
    · rw [if_neg hfits, if_neg fun h => hfits h.2]
      rfl

/--
**The run of digits**: a text, without the blanks in front, starts in one way with a sign, the name
of a base and the digits of that base.  The reader goes only to positions that exist, and it gives
the number of the digits, rounded once and with the sign, and nothing only where there are no digits,
exactly if the base is ten or the number fits 64 bits.
-/
theorem readWhole_reads_iff (text : List Char) :
    ∃ s : WholeStart, (∀ t : WholeStart, t.Begins (Text.trimStart text) ↔ t = s) ∧
      readWholeAt text = some (readWhole text) ∧
      (s.Reads (readWhole text) ↔ s.base.Fits s.digits) := by
  refine ⟨.of (Text.trimStart text), fun t => WholeStart.begins_iff, readWholeAt_eq text, ?_⟩
  rw [readWhole_eq]
  exact (WholeStart.begins_of _).reads_value_iff

/-- The least number past 64 bits, written in base sixteen, is read as no number. -/
theorem readWhole_long_run_lost :
    ∃ s : WholeStart, s.Begins (Text.trimStart "0x10000000000000000".toList) ∧
      s.base.placeValue s.digits = Nat.pow 2 64 ∧
      ¬ s.Reads (readWhole "0x10000000000000000".toList) := by
  refine ⟨⟨.none, .sixteen, '1' :: List.replicate 16 '0', []⟩, ?_, by decide, fun hreads => ?_⟩
  · exact WholeStart.begins_iff.2 (by decide)
  · have hnothing : readWhole "0x10000000000000000".toList = none := by decide
    exact hreads.1.1 hnothing '1' rfl (by decide)

/-- In base ten it is read, and so is the last number before it in base sixteen. -/
example : readWhole "-18446744073709551616px".toList = readWhole " -0XffffffffffffffffG".toList := by
  decide

end Switchboard
