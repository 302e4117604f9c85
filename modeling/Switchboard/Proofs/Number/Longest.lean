import Switchboard.Proofs.Number.Grammar
import Switchboard.Proofs.Number.Intervals

/-!
# The longest numeral at the start of a text

A number is written as a decimal numeral or by the name of infinity with a sign in front
(`Numeral.WellFormed`).  A text starts with neither or has one longest start of this form,
for numerals with the same text are the same (`Numeral.IsLongest.unique`).  A reader of
numbers finds just this one (`Numeral.exists_scan_iff`), and its number is the rounding
of what the numeral denotes (`Numeral.value_eq_iff`).
-/

namespace Switchboard

/-- A number as it is written. -/
inductive Numeral where
  | infinity (sign : Sign)
  | decimal (literal : Literal)
  deriving DecidableEq, Repr

namespace Numeral

/-- The numeral as it is written. -/
def text : Numeral → List Char
  | infinity sign => sign.text ++ infinityName
  | decimal literal => literal.text

/-- The numeral is written as the grammar has it. -/
def WellFormed : Numeral → Prop
  | infinity _ => True
  | decimal literal => literal.WellFormed

/-- The number is infinity itself, or the double to which the number of the literal rounds. -/
def Denotes : Numeral → Rounded → Prop
  | infinity sign, r => r = .infinite sign.isMinus
  | decimal literal, r => r.RoundsFrom literal.sign.isMinus literal.magnitude

/-- The text starts with the numeral, and it starts with no longer one. -/
structure IsLongest (n : Numeral) (cs : List Char) : Prop where
  wellFormed : n.WellFormed
  starts : n.text <+: cs
  longest : ∀ m : Numeral, m.WellFormed → m.text <+: cs → m.text.length ≤ n.text.length

/-- The number that the numeral is read as. -/
def value : Numeral → Rounded
  | infinity sign => .infinite sign.isMinus
  | decimal literal => literal.value

theorem value_eq_iff {n : Numeral} {r : Rounded} : n.value = r ↔ n.Denotes r := by
  cases n with
  | infinity sign => exact eq_comm
  | decimal literal => exact Literal.value_eq_iff

/-- The numeral at the start of a text, and the text after it. -/
def scan (cs : List Char) : Option (Numeral × List Char) :=
  match Text.dropStart? infinityName (Sign.scan cs).2 with
  | some rest => some (.infinity (Sign.scan cs).1, rest)
  | none => (Literal.scan cs).map fun (literal, rest) => (.decimal literal, rest)

theorem readNumber_eq (cs : List Char) :
    readNumber cs = (scan (Text.trimStart cs)).map fun (n, _) => n.value := by
  unfold readNumber scan
  dsimp only
  cases Text.dropStart? infinityName (Sign.scan (Text.trimStart cs)).2 with
  | some rest => rfl
  | none =>
      rw [if_neg (by simp)]
      cases Literal.scan (Text.trimStart cs) <;> rfl

variable {n m : Numeral} {cs rest : List Char}

/-! ## The two forms -/

theorem scan_infinity (sign : Sign) (rest : List Char) :
    scan (sign.text ++ (infinityName ++ rest)) = some (.infinity sign, rest) := by
  have hstart : NoSign (infinityName ++ rest) := by simp [NoSign, infinityName]
  rw [scan, Sign.scan_text_append sign hstart, Text.dropStart?_eq_some_iff.2 rfl]

/-- The name of infinity does not stand where a decimal numeral stands. -/
theorem scan_decimal {l : Literal} (h : l.WellFormed) (rest : List Char) :
    scan (l.text ++ rest) =
      (Literal.scan (l.text ++ rest)).map fun (literal, left) => (.decimal literal, left) := by
  have htext : l.text ++ rest =
      l.sign.text ++ (l.whole ++ (l.fractionText ++ (l.exponentText ++ rest))) := by
    rw [Literal.text_eq]
    simp
  have hname : Text.dropStart? infinityName
      (l.whole ++ (l.fractionText ++ (l.exponentText ++ rest))) = none := by
    obtain ⟨c, tail, heq, hc⟩ := h.exists_head (l.exponentText ++ rest)
    have hletter : 'I' ≠ c := by
      rcases hc with hdigit | rfl
      · exact (isDigit_cases hdigit).2.2.1.symm
      · decide
    rw [heq, infinityName, Text.dropStart?, if_neg hletter]
  rw [scan, htext, Sign.scan_text_append l.sign (h.noSign _), hname]

/-! ## What a scan finds -/

theorem wellFormed_of_scan (h : scan cs = some (n, rest)) : n.WellFormed ∧ n.text ++ rest = cs := by
  unfold scan at h
  split at h
  · rename_i left hname
    obtain ⟨rfl, rfl⟩ := Prod.mk.inj (Option.some.inj h)
    refine ⟨trivial, ?_⟩
    rw [text, List.append_assoc, ← Text.dropStart?_eq_some_iff.1 hname, Sign.text_scan]
  · obtain ⟨⟨literal, left⟩, hscan, hresult⟩ := Option.map_eq_some_iff.1 h
    obtain ⟨rfl, rfl⟩ := Prod.mk.inj hresult
    exact Literal.wellFormed_of_scan hscan

/-- Where a text starts with a numeral one is found, and what is left then is the end of what that
numeral leaves. -/
theorem exists_scan (h : n.WellFormed) (rest : List Char) :
    ∃ found left, scan (n.text ++ rest) = some (found, left) ∧ left <:+ rest := by
  cases n with
  | infinity sign =>
      refine ⟨.infinity sign, rest, ?_, List.suffix_refl rest⟩
      rw [text, List.append_assoc]
      exact scan_infinity sign rest
  | decimal literal =>
      obtain ⟨found, left, hscan, hleft⟩ := Literal.exists_scan h rest
      refine ⟨.decimal found, left, ?_, hleft⟩
      rw [text, scan_decimal h, hscan]
      rfl

/-- A numeral is read whole. -/
theorem scan_text (h : n.WellFormed) : scan n.text = some (n, []) := by
  cases n with
  | infinity sign => simpa [text] using scan_infinity sign []
  | decimal literal =>
      have hscan := scan_decimal h []
      rw [List.append_nil, Literal.scan_text h] at hscan
      exact hscan

/-! ## The longest numeral -/

theorem IsLongest.unique (hn : n.IsLongest cs) (hm : m.IsLongest cs) : n = m := by
  have hprefix : n.text <+: m.text :=
    List.prefix_of_prefix_length_le hn.starts hm.starts (hm.longest n hn.wellFormed hn.starts)
  have htext : n.text = m.text :=
    hprefix.eq_of_length_le (hn.longest m hm.wellFormed hm.starts)
  have hscan := scan_text hn.wellFormed
  rw [htext, scan_text hm.wellFormed] at hscan
  exact (Prod.mk.inj (Option.some.inj hscan)).1.symm

/-- What is left after the longest numeral is what is found to be left. -/
theorem isLongest_of_scan (h : scan cs = some (n, rest)) : n.IsLongest cs := by
  obtain ⟨hn, htext⟩ := wellFormed_of_scan h
  refine ⟨hn, ⟨rest, htext⟩, fun m hm hstarts => ?_⟩
  obtain ⟨left, rfl⟩ := hstarts
  obtain ⟨found, shortest, hscan, hsuffix⟩ := exists_scan hm left
  obtain ⟨-, rfl⟩ := Prod.mk.inj (Option.some.inj (hscan.symm.trans h))
  have hlength := congrArg List.length htext
  have hle := hsuffix.length_le
  rw [List.length_append, List.length_append] at hlength
  omega

theorem scan_eq_none_iff : scan cs = none ↔ ∀ n : Numeral, n.WellFormed → ¬ n.text <+: cs := by
  constructor
  · rintro hnone n hn ⟨rest, rfl⟩
    obtain ⟨found, left, hscan, -⟩ := exists_scan hn rest
    rw [hnone] at hscan
    simp at hscan
  · intro h
    cases hscan : scan cs with
    | none => rfl
    | some result =>
        obtain ⟨n, rest⟩ := result
        obtain ⟨hn, htext⟩ := wellFormed_of_scan hscan
        exact absurd ⟨rest, htext⟩ (h n hn)

/-- The numeral that is found is the longest one. -/
theorem exists_scan_iff : (∃ rest, scan cs = some (n, rest)) ↔ n.IsLongest cs := by
  constructor
  · rintro ⟨rest, hscan⟩
    exact isLongest_of_scan hscan
  · intro h
    cases hscan : scan cs with
    | none => exact absurd h.starts (scan_eq_none_iff.1 hscan n h.wellFormed)
    | some result =>
        obtain ⟨found, rest⟩ := result
        rw [h.unique (isLongest_of_scan hscan)]
        exact ⟨rest, rfl⟩

/-- A point needs a digit on one side of it, and an exponent needs digits of its own. -/
example : scan ".e5".toList = none ∧
    (scan "-7.e+kg".toList).map (·.2) = some "e+kg".toList := by decide

end Numeral

end Switchboard
