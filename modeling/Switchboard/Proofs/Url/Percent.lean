import Switchboard.Proofs.Text.Utf8
import Switchboard.Url.Percent

/-!
# Encoded text in URLs

What is encoded in a part of a URL reads back as it was (`decode_encode`), for
every set that holds the percent sign.  A character of the set is written
nowhere in the encoded text (`notMem_encode`), which is what keeps a segment one
segment and a value one value.  Text of plain characters is left as it is, and
no other text is (`encode_eq_self_iff`).
-/

namespace Switchboard.Url

/-- The character stands for itself where `set` is encoded. -/
def IsPlain (set : EncodeSet) (c : Char) : Prop := c.toNat < 0x80 ∧ set c = false

instance (set : EncodeSet) (c : Char) : Decidable (IsPlain set c) := by
  unfold IsPlain
  infer_instance

theorem encodeChar_of_plain {set : EncodeSet} {c : Char} (h : IsPlain set c) :
    encodeChar set c = [c] := by
  simp [encodeChar, h.1, h.2]

theorem encodeChar_of_not_plain {set : EncodeSet} {c : Char} (h : ¬ IsPlain set c) :
    encodeChar set c = (Text.Utf8.encodeChar c).flatMap encodeOctet := by
  unfold encodeChar
  rw [if_neg]
  simpa [IsPlain] using h

/-! ## Digits -/

theorem hexValue?_hexDigit {n : Nat} (h : n < 16) : hexValue? (hexDigit n) = some n := by
  have hall : ∀ m : Fin 16, hexValue? (hexDigit m) = some m.val := by decide
  exact hall ⟨n, h⟩

/-- A character that is no digit of base sixteen in capitals, and no percent sign. -/
def IsOutsideEscapes (x : Char) : Prop := x ≠ '%' ∧ ∀ n : Fin 16, hexDigit n ≠ x

instance (x : Char) : Decidable (IsOutsideEscapes x) := by
  unfold IsOutsideEscapes
  infer_instance

theorem notMem_encodeOctet {x : Char} (h : IsOutsideEscapes x) {b : Nat} (hb : b < 0x100) :
    x ∉ encodeOctet b := by
  have hhigh := h.2 ⟨b / 16, by omega⟩
  have hlow := h.2 ⟨b % 16, by omega⟩
  simp only [encodeOctet, List.mem_cons, List.not_mem_nil, or_false, not_or]
  exact ⟨h.1, Ne.symm hhigh, Ne.symm hlow⟩

/-! ## Reading back -/

theorem decodeOctets_cons_of_ne {c : Char} (h : c ≠ '%') (rest : List Char) :
    decodeOctets (c :: rest) = Text.Utf8.encodeChar c ++ decodeOctets rest := by
  rw [decodeOctets]
  rintro a b rest' rfl
  exact absurd rfl h

theorem decodeOctets_encodeOctet {b : Nat} (hb : b < 0x100) (rest : List Char) :
    decodeOctets (encodeOctet b ++ rest) = b :: decodeOctets rest := by
  simp only [encodeOctet, List.cons_append, List.nil_append]
  rw [decodeOctets, hexValue?_hexDigit (by omega), hexValue?_hexDigit (by omega)]
  dsimp only
  rw [show b / 16 * 16 + b % 16 = b by omega]

theorem decodeOctets_flatMap_encodeOctet {octets : List Nat} (h : ∀ b ∈ octets, b < 0x100)
    (rest : List Char) :
    decodeOctets (octets.flatMap encodeOctet ++ rest) = octets ++ decodeOctets rest := by
  induction octets with
  | nil => rfl
  | cons b octets ih =>
      rw [List.flatMap_cons, List.append_assoc, decodeOctets_encodeOctet (h b (by simp)),
        ih fun x hx => h x (by simp [hx]), List.cons_append]

theorem decodeOctets_encode {set : EncodeSet} (hset : set '%' = true) (cs : List Char) :
    decodeOctets (encode set cs) = Text.Utf8.encode cs := by
  unfold encode Text.Utf8.encode
  induction cs with
  | nil => rfl
  | cons c cs ih =>
      rw [List.flatMap_cons, List.flatMap_cons]
      by_cases hc : IsPlain set c
      · have hne : c ≠ '%' := by
          rintro rfl
          simp [IsPlain, hset] at hc
        rw [encodeChar_of_plain hc, List.singleton_append, decodeOctets_cons_of_ne hne, ih]
      · rw [encodeChar_of_not_plain hc, decodeOctets_flatMap_encodeOctet
          fun b hb => Text.Utf8.lt_of_mem_encodeChar hb, ih]

/--
**Round trip of encoded text**: what is encoded reads back as it was.
-/
theorem decode_encode {set : EncodeSet} (hset : set '%' = true) (cs : List Char) :
    decode (encode set cs) = cs := by
  rw [decode, decodeOctets_encode hset, Text.Utf8.decode_encode]

theorem decodeOctets_ne_nil {cs : List Char} (h : cs ≠ []) : decodeOctets cs ≠ [] := by
  unfold decodeOctets
  split
  · split
    · exact List.cons_ne_nil _ _
    · exact List.cons_ne_nil _ _
  · exact List.append_ne_nil_of_left_ne_nil (Text.Utf8.encodeChar_ne_nil _) _
  · exact absurd rfl h

/-- Whatever escapes a text holds, something is read of it. -/
theorem decode_ne_nil {cs : List Char} (h : cs ≠ []) : decode cs ≠ [] :=
  Text.Utf8.decode_ne_nil (decodeOctets_ne_nil h)

/-! ## What is written -/

@[simp] theorem encode_nil (set : EncodeSet) : encode set [] = [] := rfl

theorem encodeChar_ne_nil (set : EncodeSet) (c : Char) : encodeChar set c ≠ [] := by
  by_cases hc : IsPlain set c
  · simp [encodeChar_of_plain hc]
  · rw [encodeChar_of_not_plain hc]
    cases ho : Text.Utf8.encodeChar c with
    | nil => exact absurd ho (Text.Utf8.encodeChar_ne_nil c)
    | cons b octets => simp [encodeOctet]

theorem encode_eq_nil_iff {set : EncodeSet} {cs : List Char} : encode set cs = [] ↔ cs = [] := by
  cases cs with
  | nil => simp
  | cons c cs => simp [encode, encodeChar_ne_nil]

/-- A character of the set is not written. -/
theorem notMem_encode {set : EncodeSet} {x : Char} (hset : set x = true)
    (hx : IsOutsideEscapes x) (cs : List Char) : x ∉ encode set cs := by
  simp only [encode, List.mem_flatMap, not_exists, not_and]
  intro c _
  by_cases hc : IsPlain set c
  · rw [encodeChar_of_plain hc, List.mem_singleton]
    rintro rfl
    simp [IsPlain, hset] at hc
  · rw [encodeChar_of_not_plain hc, List.mem_flatMap]
    rintro ⟨b, hb, hmem⟩
    exact notMem_encodeOctet hx (Text.Utf8.lt_of_mem_encodeChar hb) hmem

private theorem two_le_length_encodeChar {set : EncodeSet} {c : Char} (h : ¬ IsPlain set c) :
    2 ≤ (encodeChar set c).length := by
  rw [encodeChar_of_not_plain h]
  cases ho : Text.Utf8.encodeChar c with
  | nil => exact absurd ho (Text.Utf8.encodeChar_ne_nil c)
  | cons b octets => simp [encodeOctet]

private theorem length_le_length_encode (set : EncodeSet) (cs : List Char) :
    cs.length ≤ (encode set cs).length := by
  induction cs with
  | nil => simp
  | cons c cs ih =>
      have hpos := List.length_pos_iff.2 (encodeChar_ne_nil set c)
      simp only [encode, List.flatMap_cons, List.length_append, List.length_cons] at ih ⊢
      omega

/-- Only a text of plain characters is left as it is. -/
theorem encode_eq_self_iff {set : EncodeSet} {cs : List Char} :
    encode set cs = cs ↔ ∀ c ∈ cs, IsPlain set c := by
  induction cs with
  | nil => simp
  | cons c cs ih =>
      have hcons : encode set (c :: cs) = encodeChar set c ++ encode set cs := rfl
      by_cases hc : IsPlain set c
      · rw [hcons, encodeChar_of_plain hc]
        simp [ih, hc]
      · have hlong := two_le_length_encodeChar hc
        have hrest := length_le_length_encode set cs
        constructor
        · intro h
          have hlen := congrArg List.length h
          rw [hcons, List.length_append, List.length_cons] at hlen
          omega
        · intro h
          exact absurd (h c (by simp)) hc

end Switchboard.Url
