import Switchboard.Proofs.Text.Utf8

/-!
# Positions in the octets of a text

A reader that goes through a text by positions looks at its octets.  A text can be cut only
where a character ends (`cutAt?_eq_some_iff`), so a position has to be known to be such a
place before it is used.  Behind characters of one octet each it is (`Reaches`): there the
text can be cut, the octets from there on are those of the rest of the text, and an octet of
ASCII is found there exactly where its character is next (`Reaches.getElem?_eq_some_iff`).
-/

namespace Switchboard.Text.Utf8

/-- The two sides of the text at a position of its octets. There are none past the end and inside a
character. -/
def cutAt? : List Char → Nat → Option (List Char × List Char)
  | cs, 0 => some ([], cs)
  | [], _ + 1 => none
  | c :: cs, n + 1 =>
    if (encodeChar c).length ≤ n + 1 then
      (cutAt? cs (n + 1 - (encodeChar c).length)).map fun (before, after) => (c :: before, after)
    else none

/-- The octets from a position on. There are none past the end. -/
def from? (octets : List Nat) (n : Nat) : Option (List Nat) :=
  if n ≤ octets.length then some (octets.drop n) else none

theorem encode_cons (c : Char) (cs : List Char) : encode (c :: cs) = encodeChar c ++ encode cs :=
  List.flatMap_cons

theorem encode_append (xs ys : List Char) : encode (xs ++ ys) = encode xs ++ encode ys :=
  List.flatMap_append

theorem length_encodeChar_pos (c : Char) : 0 < (encodeChar c).length :=
  List.length_pos_iff.2 (encodeChar_ne_nil c)

theorem cutAt?_append (before after : List Char) :
    cutAt? (before ++ after) (encode before).length = some (before, after) := by
  induction before with
  | nil =>
      show cutAt? after 0 = some ([], after)
      rw [cutAt?]
  | cons c before ih =>
      have hlength : (encode (c :: before)).length =
          (encodeChar c).length + (encode before).length := by
        rw [encode_cons, List.length_append]
      obtain ⟨width, hwidth⟩ := Nat.exists_eq_add_of_lt (length_encodeChar_pos c)
      have hnext : (encode (c :: before)).length = (width + (encode before).length) + 1 := by omega
      have hrest : width + (encode before).length + 1 - (encodeChar c).length =
          (encode before).length := by omega
      rw [hnext, List.cons_append, cutAt?, if_pos (by omega), hrest, ih]
      rfl

/-- A text is cut where characters end. -/
theorem cutAt?_eq_some_iff {cs before after : List Char} {n : Nat} :
    cutAt? cs n = some (before, after) ↔ before ++ after = cs ∧ (encode before).length = n := by
  constructor
  · intro h
    fun_induction cutAt? cs n generalizing before with
    | case1 cs =>
        obtain ⟨rfl, rfl⟩ := Prod.mk.inj (Option.some.inj h)
        exact ⟨rfl, rfl⟩
    | case2 => simp at h
    | case3 c cs n hfits ih =>
        obtain ⟨⟨prior, rest⟩, hcut, heq⟩ := Option.map_eq_some_iff.1 h
        obtain ⟨rfl, rfl⟩ := Prod.mk.inj heq
        obtain ⟨htext, hlength⟩ := ih hcut
        refine ⟨by rw [List.cons_append, htext], ?_⟩
        rw [encode_cons, List.length_append, hlength]
        omega
    | case4 => simp at h
  · rintro ⟨rfl, rfl⟩
    exact cutAt?_append before after

/-- Inside of a character there is no cut, and there is one behind it. -/
example : cutAt? "é1".toList 1 = none ∧
    cutAt? "é1".toList 2 = some (['é'], ['1']) := by decide

/-- The position stands in front of the rest of the text, behind characters of one octet each. -/
def Reaches (text : List Char) (n : Nat) (rest : List Char) : Prop :=
  ∃ before, (∀ c ∈ before, c.toNat < 0x80) ∧ before.length = n ∧ before ++ rest = text

theorem encodeChar_of_ascii {c : Char} (h : c.toNat < 0x80) : encodeChar c = [c.toNat] :=
  if_pos h

theorem length_encode_of_ascii {cs : List Char} (h : ∀ c ∈ cs, c.toNat < 0x80) :
    (encode cs).length = cs.length := by
  induction cs with
  | nil => rfl
  | cons c cs ih =>
      rw [encode_cons, encodeChar_of_ascii (h c List.mem_cons_self), List.length_append,
        ih fun d hd => h d (List.mem_cons_of_mem c hd), List.length_cons]
      exact Nat.add_comm _ _

/-- The first octet is one of ASCII only if the first character is. -/
theorem head?_encode_eq_some_iff {cs : List Char} {c : Char} (h : c.toNat < 0x80) :
    (encode cs).head? = some c.toNat ↔ cs.head? = some c := by
  cases cs with
  | nil => simp [encode]
  | cons d cs =>
      obtain ⟨b, octets, hb⟩ := List.exists_cons_of_ne_nil (encodeChar_ne_nil d)
      rw [encode_cons, hb]
      simp only [List.cons_append, List.head?_cons, Option.some.injEq]
      constructor
      · rintro rfl
        have hcode := ascii_of_mem_encodeChar (hb ▸ List.mem_cons_self) h
        exact (Char.toNat_inj.1 hcode).symm
      · rintro rfl
        rw [encodeChar_of_ascii h] at hb
        exact (List.cons.inj hb).1.symm

namespace Reaches

variable {text rest : List Char} {n : Nat}

theorem start (text : List Char) : Reaches text 0 text := ⟨[], by simp, rfl, rfl⟩

theorem append {ds : List Char} (h : Reaches text n (ds ++ rest))
    (hds : ∀ c ∈ ds, c.toNat < 0x80) : Reaches text (n + ds.length) rest := by
  obtain ⟨before, hbefore, rfl, rfl⟩ := h
  refine ⟨before ++ ds, fun c hc => ?_, List.length_append, List.append_assoc before ds rest⟩
  rcases List.mem_append.1 hc with hc | hc
  · exact hbefore c hc
  · exact hds c hc

theorem cons {c : Char} (h : Reaches text n (c :: rest)) (hc : c.toNat < 0x80) :
    Reaches text (n + 1) rest := by
  have hnext : Reaches text n ([c] ++ rest) := h
  exact hnext.append fun d hd => List.mem_singleton.1 hd ▸ hc

/-- The text can be cut there. -/
theorem cutAt? (h : Reaches text n rest) :
    ∃ before, Utf8.cutAt? text n = some (before, rest) ∧ before ++ rest = text := by
  obtain ⟨before, hbefore, rfl, htext⟩ := h
  exact ⟨before, cutAt?_eq_some_iff.2 ⟨htext, length_encode_of_ascii hbefore⟩, htext⟩

theorem drop_encode (h : Reaches text n rest) : (encode text).drop n = encode rest := by
  obtain ⟨before, hbefore, rfl, rfl⟩ := h
  rw [encode_append, ← length_encode_of_ascii hbefore, List.drop_left]

theorem le_length (h : Reaches text n rest) : n ≤ (encode text).length := by
  obtain ⟨before, hbefore, rfl, rfl⟩ := h
  rw [encode_append, List.length_append, length_encode_of_ascii hbefore]
  exact Nat.le_add_right _ _

/-- The octets from there on are those of the rest. -/
theorem from? (h : Reaches text n rest) : Utf8.from? (encode text) n = some (encode rest) := by
  rw [Utf8.from?, if_pos h.le_length, h.drop_encode]

/-- An octet of ASCII stands there where its character is next. -/
theorem getElem?_eq_some_iff (h : Reaches text n rest) {c : Char} (hc : c.toNat < 0x80) :
    (encode text)[n]? = some c.toNat ↔ rest.head? = some c := by
  rw [← head?_encode_eq_some_iff hc, ← h.drop_encode, List.head?_drop]

end Reaches

end Switchboard.Text.Utf8
