import Switchboard.Text.Utf8

/-!
# Reading back encoded text

The octets of a text, read as UTF-8, are the text: `decode_encode`.  The reader
is a machine that owes octets, so the proof follows one character through it:
the first octet fixes how many octets are owed and what the next one may be,
and every further octet moves six bits into the payload.

Of octets that are no text there is something to read too (`decode_ne_nil`).
-/

namespace Switchboard.Text.Utf8

/-- The code point of a character is below the surrogates or above them. -/
theorem toNat_range (c : Char) :
    c.toNat < 0xD800 ∨ (0xDFFF < c.toNat ∧ c.toNat < 0x110000) := c.valid

/-! ## First octets -/

private theorem lead_of_two {n : Nat} (hlow : 0x80 ≤ n) (hhigh : n < 0x800) :
    lead (0xC0 + n / 0x40) = .begun ⟨1, 0x80, 0xBF, n / 0x40⟩ := by
  have hge : 2 ≤ n / 0x40 := by omega
  have hlt : n / 0x40 < 0x20 := by omega
  unfold lead
  rw [if_neg (by omega), if_neg (by omega), if_pos (by omega),
    show 0xC0 + n / 0x40 - 0xC0 = n / 0x40 by omega]

/-- The first of three octets lets the second one follow. -/
private theorem lead_of_three {n : Nat} (hlow : 0x800 ≤ n) (hhigh : n < 0x10000)
    (hrange : n < 0xD800 ∨ 0xDFFF < n) :
    ∃ low high, lead (0xE0 + n / 0x1000) = .begun ⟨2, low, high, n / 0x1000⟩ ∧
      low ≤ 0x80 + n / 0x40 % 0x40 ∧ 0x80 + n / 0x40 % 0x40 ≤ high := by
  have hlt : n / 0x1000 < 0x10 := by omega
  unfold lead
  rw [if_neg (by omega), if_neg (by omega), if_neg (by omega)]
  by_cases h0 : n / 0x1000 = 0
  · exact ⟨0xA0, 0xBF, by simp [h0], by omega, by omega⟩
  · rw [if_neg (by omega)]
    by_cases hD : n / 0x1000 = 0xD
    · exact ⟨0x80, 0x9F, by simp [hD], by omega, by omega⟩
    · refine ⟨0x80, 0xBF, ?_, by omega, by omega⟩
      rw [if_neg (by omega), if_pos (by omega),
        show 0xE0 + n / 0x1000 - 0xE0 = n / 0x1000 by omega]

/-- The first of four octets lets the second one follow. -/
private theorem lead_of_four {n : Nat} (hlow : 0x10000 ≤ n) (hhigh : n < 0x110000) :
    ∃ low high, lead (0xF0 + n / 0x40000) = .begun ⟨3, low, high, n / 0x40000⟩ ∧
      low ≤ 0x80 + n / 0x1000 % 0x40 ∧ 0x80 + n / 0x1000 % 0x40 ≤ high := by
  have hlt : n / 0x40000 < 5 := by omega
  unfold lead
  rw [if_neg (by omega), if_neg (by omega), if_neg (by omega), if_neg (by omega),
    if_neg (by omega), if_neg (by omega)]
  by_cases h0 : n / 0x40000 = 0
  · exact ⟨0x90, 0xBF, by simp [h0], by omega, by omega⟩
  · rw [if_neg (by omega)]
    by_cases h4 : n / 0x40000 = 4
    · exact ⟨0x80, 0x8F, by simp [h4], by omega, by omega⟩
    · refine ⟨0x80, 0xBF, ?_, by omega, by omega⟩
      rw [if_pos (by omega), show 0xF0 + n / 0x40000 - 0xF0 = n / 0x40000 by omega]

/-! ## Further octets -/

private theorem decodeFrom_begun {b : Nat} {p : Pending} (h : lead b = .begun p)
    (rest : List Nat) : decodeFrom none (b :: rest) = decodeFrom (some p) rest := by
  rw [decodeFrom, h]

private theorem decodeFrom_last {low high payload b : Nat} (hlow : low ≤ b) (hhigh : b ≤ high)
    (rest : List Nat) :
    decodeFrom (some ⟨1, low, high, payload⟩) (b :: rest) =
      Char.ofNat (payload * 0x40 + (b - 0x80)) :: decodeFrom none rest := by
  rw [decodeFrom]
  simp [hlow, hhigh]

private theorem decodeFrom_more {owed low high payload b : Nat} (howed : 2 ≤ owed)
    (hlow : low ≤ b) (hhigh : b ≤ high) (rest : List Nat) :
    decodeFrom (some ⟨owed, low, high, payload⟩) (b :: rest) =
      decodeFrom (some ⟨owed - 1, 0x80, 0xBF, payload * 0x40 + (b - 0x80)⟩) rest := by
  rw [decodeFrom]
  simp [hlow, hhigh, show ¬ owed ≤ 1 by omega]

/-! ## Whole characters -/

/-- The octets of one character are read as that character. -/
theorem decodeFrom_encodeChar (c : Char) (rest : List Nat) :
    decodeFrom none (encodeChar c ++ rest) = c :: decodeFrom none rest := by
  have hrange := toNat_range c
  have hc : Char.ofNat c.toNat = c := Char.ofNat_toNat c
  unfold encodeChar
  dsimp only
  generalize c.toNat = n at hrange hc
  by_cases h1 : n < 0x80
  · rw [if_pos h1]
    simp [decodeFrom, lead, h1, hc]
  by_cases h2 : n < 0x800
  · rw [if_neg h1, if_pos h2]
    simp only [List.cons_append, List.nil_append]
    rw [decodeFrom_begun (lead_of_two (by omega) h2),
      decodeFrom_last (by omega) (by omega),
      show n / 0x40 * 0x40 + (0x80 + n % 0x40 - 0x80) = n by omega, hc]
  by_cases h3 : n < 0x10000
  · rw [if_neg h1, if_neg h2, if_pos h3]
    obtain ⟨low, high, hlead, hlow, hhigh⟩ :=
      lead_of_three (n := n) (by omega) h3 (by omega)
    simp only [List.cons_append, List.nil_append]
    rw [decodeFrom_begun hlead, decodeFrom_more (by omega) hlow hhigh,
      decodeFrom_last (by omega) (by omega),
      show (n / 0x1000 * 0x40 + (0x80 + n / 0x40 % 0x40 - 0x80)) * 0x40
        + (0x80 + n % 0x40 - 0x80) = n by omega, hc]
  · rw [if_neg h1, if_neg h2, if_neg h3]
    obtain ⟨low, high, hlead, hlow, hhigh⟩ :=
      lead_of_four (n := n) (by omega) (by omega)
    simp only [List.cons_append, List.nil_append]
    rw [decodeFrom_begun hlead, decodeFrom_more (by omega) hlow hhigh,
      decodeFrom_more (by omega) (by omega) (by omega),
      decodeFrom_last (by omega) (by omega),
      show ((n / 0x40000 * 0x40 + (0x80 + n / 0x1000 % 0x40 - 0x80)) * 0x40
        + (0x80 + n / 0x40 % 0x40 - 0x80)) * 0x40 + (0x80 + n % 0x40 - 0x80) = n by omega, hc]

/--
**Round trip of texts**: the octets of a text are read as the text.
-/
theorem decode_encode (cs : List Char) : decode (encode cs) = cs := by
  unfold decode encode
  induction cs with
  | nil => rfl
  | cons c cs ih =>
      rw [List.flatMap_cons, decodeFrom_encodeChar, ih]

/-- A character has octets, each of which fits eight bits. -/
theorem lt_of_mem_encodeChar {c : Char} {b : Nat} (h : b ∈ encodeChar c) : b < 0x100 := by
  have hrange := toNat_range c
  unfold encodeChar at h
  dsimp only at h
  generalize c.toNat = n at hrange h
  split at h
  · simp at h; omega
  split at h
  · simp at h; omega
  split at h
  · simp at h; omega
  · simp at h; omega

/-- The octets of a character outside of ASCII are outside of ASCII. -/
theorem ascii_of_mem_encodeChar {c : Char} {b : Nat} (h : b ∈ encodeChar c) (hb : b < 0x80) :
    b = c.toNat := by
  unfold encodeChar at h
  dsimp only at h
  generalize c.toNat = n at h ⊢
  split at h
  · simpa using h
  split at h
  · simp at h; omega
  split at h
  · simp at h; omega
  · simp at h; omega

theorem encodeChar_ne_nil (c : Char) : encodeChar c ≠ [] := by
  unfold encodeChar
  dsimp only
  split
  · simp
  split
  · simp
  split <;> simp

/-! ## Octets that are no text -/

/-- Of a character that has begun something is read, whatever follows. -/
theorem decodeFrom_some_ne_nil (p : Pending) (octets : List Nat) :
    decodeFrom (some p) octets ≠ [] := by
  induction octets generalizing p with
  | nil => simp [decodeFrom]
  | cons b rest ih =>
      rw [decodeFrom]
      split
      · dsimp only
        split
        · exact List.cons_ne_nil _ _
        · exact ih _
      · exact List.cons_ne_nil _ _

theorem decode_ne_nil {octets : List Nat} (h : octets ≠ []) : decode octets ≠ [] := by
  obtain ⟨b, rest, rfl⟩ := List.exists_cons_of_ne_nil h
  rw [decode, decodeFrom]
  split
  · exact List.cons_ne_nil _ _
  · exact decodeFrom_some_ne_nil _ rest
  · exact List.cons_ne_nil _ _

end Switchboard.Text.Utf8
