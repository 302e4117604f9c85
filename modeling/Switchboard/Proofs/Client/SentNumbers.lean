import Switchboard.Proofs.Client.Arguments
import Switchboard.Proofs.Number.Scanned
import Switchboard.Proofs.Url.Segments

/-!
# Numbers in a request

A number that a client writes into a path is a segment of its own, and none of its
characters is encoded; in a query it comes back as it was written.  So a server has the
text of the number in front of it, and its readers go through the whole of it
(`readsThrough_number`).
-/

namespace Switchboard

/-- A printed numeral is made of digits, signs, a point and the mark of an exponent. -/
theorem Literal.IsPrinted.char_cases {l : Literal} (h : l.IsPrinted) {c : Char} (hc : c ∈ l.text) :
    c.isDigit = true ∨ c ∈ ['+', '-', '.', 'e'] := by
  rw [text_eq] at hc
  simp only [List.mem_append] at hc
  rcases hc with hsign | hwhole | hfraction | hexponent
  · rcases Sign.mem_text hsign with rfl | rfl <;> simp
  · exact .inl (h.whole c hwhole)
  · unfold fractionText at hfraction
    split at hfraction
    · rename_i digits hdigits
      have hall : ∀ d ∈ digits, d.isDigit = true := by simpa [hdigits] using h.fraction
      rcases List.mem_cons.1 hfraction with rfl | hdigit
      · simp
      · exact .inl (hall c hdigit)
    · exact absurd hfraction List.not_mem_nil
  · unfold exponentText at hexponent
    split at hexponent
    · rename_i e he
      obtain ⟨hmark, -, hdigits⟩ := h.exponent e he
      unfold Exponent.text at hexponent
      rw [hmark, List.cons_append, List.mem_cons, List.mem_append] at hexponent
      rcases hexponent with rfl | hsign | hdigit
      · simp
      · rcases Sign.mem_text hsign with rfl | rfl <;> simp
      · exact .inl (hdigits c hdigit)
    · exact absurd hexponent List.not_mem_nil

namespace Url

theorem isPlain_of_isDigit (scheme : String) {c : Char} (h : c.isDigit = true) :
    IsPlain (addedSegmentSet scheme) c := by
  have hrange := toNat_range_of_isDigit h
  have hall : ∀ n < 58, 48 ≤ n → segmentSet (Char.ofNat n) = false ∧ Char.ofNat n ≠ '\\' := by
    decide
  obtain ⟨hset, hslash⟩ := hall c.toNat (by omega) hrange.1
  rw [Char.ofNat_toNat] at hset hslash
  exact ⟨by omega, addedSegmentSet_eq_false scheme hset hslash⟩

theorem isPlain_of_mem_marks (scheme : String) {c : Char} (h : c ∈ ['+', '-', '.', 'e']) :
    IsPlain (addedSegmentSet scheme) c := by
  simp only [List.mem_cons, List.not_mem_nil, or_false] at h
  rcases h with rfl | rfl | rfl | rfl
  all_goals exact ⟨by decide, addedSegmentSet_eq_false scheme (by decide) (by decide)⟩

/-- A printed numeral is a segment as it is: it has a digit, so it is not one dot or two. -/
theorem sentAsIs_of_isPrinted (scheme : String) {l : Literal} (h : l.IsPrinted) :
    SentAsIs scheme l.text := by
  have hdigit : ¬ ∀ c ∈ l.text, c = '.' := by
    intro hdots
    obtain ⟨c, hc⟩ := List.exists_mem_of_ne_nil _ h.whole_ne
    have hdot : c = '.' := hdots c (by rw [Literal.text_eq]; simp [hc])
    have := h.whole c hc
    rw [hdot] at this
    exact absurd this (by decide)
  refine ⟨?_, ?_, fun c hc => (h.char_cases hc).elim (isPlain_of_isDigit scheme)
    (isPlain_of_mem_marks scheme)⟩
  · intro hdot
    exact hdigit (by simp [hdot])
  · intro hdots
    exact hdigit (by simp [hdots])

/-- The text of a number is a segment of its own, and it is sent and read as it is. -/
theorem sent_plainText (scheme : String) (n : Number) :
    Stays n.plainText ∧ sent scheme n.plainText = n.plainText ∧
      decode n.plainText = n.plainText := by
  obtain ⟨l, hprinted, htext⟩ := n.exists_printed
  have hne : l.text ≠ [] := by
    rw [Literal.text_eq]
    simp [hprinted.whole_ne]
  obtain ⟨hstays, hsent⟩ :=
    stays_and_sent_eq_iff.2 ⟨hne, sentAsIs_of_isPrinted scheme hprinted⟩
  rw [htext] at hstays hsent
  refine ⟨hstays, hsent, ?_⟩
  have hkept := kept_sent scheme n.plainText
  have hdecode := decode_sent scheme n.plainText
  rw [hsent] at hkept hdecode
  rw [hdecode, hkept]

end Url

/--
**Numbers are read to their end**: the longest numeral at the start of the text of a number is the
whole text, and a reader of whole numbers too takes the whole text exactly if the number is an
integer or a double of integral value below `10 ^ 21`.  The text reaches a server as it is, as a
segment of a path and as a value of a query.
-/
theorem readsThrough_number (n : Number) :
    (ReadsThrough (Json.number n).plainText ∧
        (ReadsThroughWhole (Json.number n).plainText ↔ n.IsIntegral)) ∧
      (∀ scheme, Url.Stays (Json.number n).plainText ∧
        Url.sent scheme (Json.number n).plainText = (Json.number n).plainText ∧
        Url.decode (Json.number n).plainText = (Json.number n).plainText) ∧
      ∀ (u : Url) (key : String),
        Url.readPairs ((u.addPairs [(key, String.ofList (Json.number n).plainText)]).query.getD []) =
          Url.readPairs (u.query.getD []) ++ [(key, String.ofList (Json.number n).plainText)] := by
  rw [Json.plainText]
  exact ⟨⟨n.readsThrough_plainText, n.readsThroughWhole_plainText_iff⟩,
    fun scheme => Url.sent_plainText scheme n, fun u key => u.readPairs_addPairs _⟩

end Switchboard
