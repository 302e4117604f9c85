import Switchboard.Proofs.Text.Split
import Switchboard.Proofs.Url.Percent
import Switchboard.Url.Basic

/-!
# Segments added to a path

`pushSegments` adds texts to the path of a URL.  Most texts make one segment
each, and the path grows by exactly the encoded texts
(`foldl_pushSegment_of_stays`).  A text makes no segment of its own when nothing of
it is left after the dropped characters, or only one dot or two: such a text
leaves the path as it was, cuts it short or leaves an empty segment, so that the
path never reaches the length it should have
(`length_foldl_pushSegment_le`, `stays_of_length_foldl_pushSegment`).

The count is kept for any reading of segments that finds nothing in an empty one
and at most one thing in an encoded text.  A path can therefore be counted by its
segments or by what a server finds between its slashes.

Under the scheme of files the first segment may be read as a drive.  There a
text can make two segments, and the counts do not apply.
-/

namespace Switchboard.Url

/-- The text without the characters that are dropped wherever they stand. -/
def kept (text : List Char) : List Char := text.filter (!isDropped ·)

/-- The segment that a text makes. -/
def sent (scheme : String) (text : List Char) : List Char :=
  encode (addedSegmentSet scheme) (kept text)

/-- The text makes a segment of its own. -/
def Stays (text : List Char) : Prop :=
  kept text ≠ [] ∧ kept text ≠ ['.'] ∧ kept text ≠ ['.', '.']

instance (text : List Char) : Decidable (Stays text) := by
  unfold Stays
  infer_instance

/-- The segments below which others are added: all but an empty one at the end, and none if only
an empty one is left. -/
def root (ss : List (List Char)) : List (List Char) :=
  if dropEmptyLast ss = [[]] then [] else dropEmptyLast ss

/-- The first text is added directly below the root of a file system and read as a drive there. -/
def MakesDrive (scheme : String) (ss texts : List (List Char)) : Prop :=
  scheme = fileScheme ∧ root ss = [] ∧
    ∃ text, texts.head? = some text ∧ rootSegments (sent scheme text) ≠ [sent scheme text]

/-! ## Encoded segments -/

theorem addedSegmentSet_of_segmentSet (scheme : String) {c : Char} (h : segmentSet c = true) :
    addedSegmentSet scheme c = true := by
  unfold addedSegmentSet
  split
  · simp [specialSegmentSet, h]
  · exact h

theorem addedSegmentSet_eq_false (scheme : String) {c : Char} (h : segmentSet c = false)
    (hc : c ≠ '\\') : addedSegmentSet scheme c = false := by
  unfold addedSegmentSet
  split
  · simp [specialSegmentSet, h, hc]
  · exact h

theorem addedSegmentSet_dot (scheme : String) : addedSegmentSet scheme '.' = false :=
  addedSegmentSet_eq_false scheme (by decide) (by decide)

theorem decode_sent (scheme : String) (text : List Char) :
    decode (sent scheme text) = kept text :=
  decode_encode (addedSegmentSet_of_segmentSet scheme (by decide)) _

theorem sent_eq_nil_iff {scheme : String} {text : List Char} :
    sent scheme text = [] ↔ kept text = [] := encode_eq_nil_iff

theorem slash_notMem_sent (scheme : String) (text : List Char) : '/' ∉ sent scheme text :=
  notMem_encode (addedSegmentSet_of_segmentSet scheme (by decide)) (by decide) _

/-- The dropped characters are controls, so plain text holds none of them. -/
theorem undropped_of_plain {scheme : String} {c : Char}
    (h : IsPlain (addedSegmentSet scheme) c) : isDropped c = false := by
  cases hd : isDropped c with
  | false => rfl
  | true =>
      have hset : addedSegmentSet scheme c = true := by
        apply addedSegmentSet_of_segmentSet
        simp only [isDropped, Bool.or_eq_true, beq_iff_eq] at hd
        rcases hd with (rfl | rfl) | rfl <;> decide
      rw [h.2] at hset
      exact absurd hset (by decide)

/-- The text is sent as it is. -/
structure SentAsIs (scheme : String) (text : List Char) : Prop where
  ne_dot : text ≠ ['.']
  ne_dots : text ≠ ['.', '.']
  plain : ∀ c ∈ text, IsPlain (addedSegmentSet scheme) c

instance (scheme : String) (text : List Char) : Decidable (SentAsIs scheme text) :=
  decidable_of_iff (text ≠ ['.'] ∧ text ≠ ['.', '.'] ∧
      text.all fun c => decide (IsPlain (addedSegmentSet scheme) c))
    ⟨fun ⟨hdot, hdots, hplain⟩ => ⟨hdot, hdots, by simpa using hplain⟩,
      fun h => ⟨h.ne_dot, h.ne_dots, by simpa using h.plain⟩⟩

theorem kept_eq_self_iff {text : List Char} :
    kept text = text ↔ ∀ c ∈ text, isDropped c = false := by
  simp [kept, List.filter_eq_self]

theorem kept_sent (scheme : String) (text : List Char) :
    kept (sent scheme text) = sent scheme text := by
  rw [kept_eq_self_iff]
  intro c hc
  cases hd : isDropped c with
  | false => rfl
  | true =>
      refine absurd hc (notMem_encode (addedSegmentSet_of_segmentSet scheme ?_) ?_ _)
      all_goals
        simp only [isDropped, Bool.or_eq_true, beq_iff_eq] at hd
        rcases hd with (rfl | rfl) | rfl <;> decide

/-- The text of an argument that makes a segment with nothing left out. -/
structure FillsSegment (text : List Char) : Prop where
  ne_nil : text ≠ []
  ne_dot : text ≠ ['.']
  ne_dots : text ≠ ['.', '.']
  undropped : ∀ c ∈ text, isDropped c = false

instance (text : List Char) : Decidable (FillsSegment text) :=
  decidable_of_iff (text ≠ [] ∧ text ≠ ['.'] ∧ text ≠ ['.', '.'] ∧
      text.all fun c => !isDropped c)
    ⟨fun ⟨hnil, hdot, hdots, hundropped⟩ => ⟨hnil, hdot, hdots, by simpa using hundropped⟩,
      fun h => ⟨h.ne_nil, h.ne_dot, h.ne_dots, by simpa using h.undropped⟩⟩

theorem FillsSegment.kept_eq {text : List Char} (h : FillsSegment text) : kept text = text :=
  kept_eq_self_iff.2 h.undropped

theorem FillsSegment.stays {text : List Char} (h : FillsSegment text) : Stays text := by
  unfold Stays
  rw [h.kept_eq]
  exact ⟨h.ne_nil, h.ne_dot, h.ne_dots⟩

/-- A colon is enough to make a segment. -/
theorem stays_colon_cons (rest : List Char) : Stays (':' :: rest) := by
  have hkept : kept (':' :: rest) = ':' :: kept rest := rfl
  unfold Stays
  rw [hkept]
  simp

/-- A text that makes a segment and is that segment is sent as it is, and no other. -/
theorem stays_and_sent_eq_iff {scheme : String} {text : List Char} :
    Stays text ∧ sent scheme text = text ↔ text ≠ [] ∧ SentAsIs scheme text := by
  constructor
  · rintro ⟨⟨hne, hdot, hdots⟩, hsent⟩
    have hkept : kept text = text := by
      rw [← hsent, kept_sent]
    rw [hkept] at hne hdot hdots
    rw [sent, hkept] at hsent
    exact ⟨hne, hdot, hdots, encode_eq_self_iff.1 hsent⟩
  · rintro ⟨hne, h⟩
    have hkept : kept text = text := by
      rw [kept_eq_self_iff]
      intro c hc
      exact undropped_of_plain (h.plain c hc)
    refine ⟨⟨?_, ?_, ?_⟩, ?_⟩
    · rwa [hkept]
    · rw [hkept]
      exact h.ne_dot
    · rw [hkept]
      exact h.ne_dots
    · rw [sent, hkept]
      exact encode_eq_self_iff.2 h.plain

private theorem showDots_encodeOctet {b : Nat} (hb : b < 0x100) (hdot : b ≠ 0x2E)
    (rest : List Char) : showDots (encodeOctet b ++ rest) = encodeOctet b ++ showDots rest := by
  have hall : ∀ x : Fin 0x100, x.val ≠ 0x2E →
      hexDigit (x.val / 16) ≠ '%' ∧ hexDigit (x.val % 16) ≠ '%' ∧
        (hexDigit (x.val / 16) = '2' →
          hexDigit (x.val % 16) ≠ 'e' ∧ hexDigit (x.val % 16) ≠ 'E') := by
    decide +kernel
  obtain ⟨hhigh, hlow, hpair⟩ := hall ⟨b, hb⟩ hdot
  have hstep : ∀ {c : Char}, c ≠ '%' → ∀ cs, showDots (c :: cs) = c :: showDots cs := by
    intro c hc cs
    rw [showDots]
    · rintro r rfl
      exact absurd rfl hc
    · rintro r rfl
      exact absurd rfl hc
  simp only [encodeOctet, List.cons_append, List.nil_append]
  rw [showDots, hstep hhigh, hstep hlow]
  · intro r _ h
    simp only [List.cons.injEq] at h
    exact (hpair h.1).1 h.2.1
  · intro r _ h
    simp only [List.cons.injEq] at h
    exact (hpair h.1).2 h.2.1

/-- Encoded text hides no dots: a dot is plain, and nothing else is written as one. -/
theorem showDots_encode {set : EncodeSet} (hpercent : set '%' = true) (hdot : set '.' = false)
    (cs : List Char) : showDots (encode set cs) = encode set cs := by
  have hoctets : ∀ octets : List Nat, (∀ b ∈ octets, b < 0x100 ∧ b ≠ 0x2E) → ∀ rest,
      showDots (octets.flatMap encodeOctet ++ rest) =
        octets.flatMap encodeOctet ++ showDots rest := by
    intro octets h rest
    induction octets with
    | nil => rfl
    | cons b octets ih =>
        obtain ⟨hb, hb'⟩ := h b (by simp)
        rw [List.flatMap_cons, List.append_assoc, showDots_encodeOctet hb hb',
          ih fun x hx => h x (by simp [hx]), List.append_assoc]
  unfold encode
  induction cs with
  | nil => rfl
  | cons c cs ih =>
      rw [List.flatMap_cons]
      by_cases hc : IsPlain set c
      · have hne : c ≠ '%' := by
          rintro rfl
          simp [IsPlain, hpercent] at hc
        rw [encodeChar_of_plain hc, List.singleton_append, showDots, ih]
        · rintro r rfl
          exact absurd rfl hne
        · rintro r rfl
          exact absurd rfl hne
      · rw [encodeChar_of_not_plain hc, hoctets, ih]
        intro b hb
        refine ⟨Text.Utf8.lt_of_mem_encodeChar hb, ?_⟩
        rintro rfl
        have hcode := Text.Utf8.ascii_of_mem_encodeChar hb (by decide)
        have hdotChar : c = '.' := by
          rw [← Char.ofNat_toNat c, ← hcode]
        subst hdotChar
        exact hc ⟨by decide, hdot⟩

theorem sent_eq_dot_iff {scheme : String} {text : List Char} :
    sent scheme text = ['.'] ↔ kept text = ['.'] := by
  constructor
  · intro h
    rw [← decode_sent scheme, h]
    decide
  · intro h
    rw [sent, h]
    exact encode_eq_self_iff.2 (by simp [IsPlain, addedSegmentSet_dot])

theorem sent_eq_dots_iff {scheme : String} {text : List Char} :
    sent scheme text = ['.', '.'] ↔ kept text = ['.', '.'] := by
  constructor
  · intro h
    rw [← decode_sent scheme, h]
    decide
  · intro h
    rw [sent, h]
    exact encode_eq_self_iff.2 (by simp [IsPlain, addedSegmentSet_dot])

/-! ## One more segment -/

/-- The path that a text is added to: a single empty segment gives way. -/
def opened (ss : List (List Char)) : List (List Char) := if ss = [[]] then [] else ss

theorem opened_of_ne {ss : List (List Char)} (h : ss ≠ [[]]) : opened ss = ss := if_neg h

theorem opened_isPrefix (ss : List (List Char)) : opened ss <+: ss := by
  unfold opened
  split
  · exact List.nil_prefix
  · exact List.prefix_rfl

theorem parent_isPrefix (ss : List (List Char)) : parent ss <+: ss := by
  unfold parent
  split
  · split
    · exact List.prefix_rfl
    · exact List.dropLast_prefix ss
  · exact List.nil_prefix

private theorem place_encode {scheme : String} {text : List Char} (ss : List (List Char)) :
    place scheme true ss (sent scheme text) =
      if kept text = ['.'] then ss ++ [[]]
      else if kept text = ['.', '.'] then parent ss ++ [[]]
      else ss ++ (if scheme = fileScheme ∧ ss = [] then rootSegments (sent scheme text)
        else [sent scheme text]) := by
  have hdots : showDots (sent scheme text) = sent scheme text :=
    showDots_encode (addedSegmentSet_of_segmentSet scheme (by decide))
      (addedSegmentSet_dot scheme) _
  unfold place
  rw [hdots]
  simp only [← @sent_eq_dot_iff scheme, ← @sent_eq_dots_iff scheme]
  split
  · rename_i h; simp [h]
  · rename_i h; simp [h]
  · rename_i h1 h2
    rw [if_neg h1, if_neg h2]

/-- A text that stays is added as one segment, unless it is read as a drive. -/
theorem pushSegment_of_stays {scheme : String} {text : List Char} (h : Stays text)
    (ss : List (List Char)) :
    pushSegment scheme ss text =
      opened ss ++ (if scheme = fileScheme ∧ opened ss = [] then rootSegments (sent scheme text)
        else [sent scheme text]) := by
  obtain ⟨-, hdot, hdots⟩ := h
  have htext : ¬ (text = ['.'] ∨ text = ['.', '.']) := by
    rintro (rfl | rfl)
    · exact hdot (by decide)
    · exact hdots (by decide)
  rw [pushSegment, if_neg htext]
  show place scheme true (opened ss) (sent scheme text) = _
  rw [place_encode, if_neg hdot, if_neg hdots]

/-- A text that does not stay keeps a part of the path and adds at most an empty segment. -/
theorem pushSegment_of_not_stays {text : List Char} (h : ¬ Stays text) (scheme : String)
    (ss : List (List Char)) :
    ∃ front tail, pushSegment scheme ss text = front ++ tail ∧ front <+: ss ∧
      ∀ s ∈ tail, s = [] := by
  rw [pushSegment]
  by_cases htext : text = ['.'] ∨ text = ['.', '.']
  · rw [if_pos htext]
    exact ⟨ss, [], by simp, List.prefix_rfl, by simp⟩
  · rw [if_neg htext]
    show ∃ front tail, place scheme true (opened ss) (sent scheme text) = _ ∧ _
    rw [place_encode]
    by_cases hdot : kept text = ['.']
    · rw [if_pos hdot]
      exact ⟨opened ss, [[]], rfl, opened_isPrefix ss, by simp⟩
    by_cases hdots : kept text = ['.', '.']
    · rw [if_neg hdot, if_pos hdots]
      exact ⟨parent (opened ss), [[]], rfl, (parent_isPrefix _).trans (opened_isPrefix ss), by simp⟩
    · have hempty : kept text = [] :=
        Decidable.byContradiction fun hne => h ⟨hne, hdot, hdots⟩
      have hsent : sent scheme text = [] := sent_eq_nil_iff.2 hempty
      rw [if_neg hdot, if_neg hdots, hsent]
      refine ⟨opened ss, [[]], ?_, opened_isPrefix ss, by simp⟩
      split <;> rfl

/-! ## All segments -/

private theorem foldl_pushSegment_of_ne {scheme : String} {texts : List (List Char)}
    (hstays : ∀ text ∈ texts, Stays text) {ss : List (List Char)} (hne : ss ≠ [])
    (hne' : ss ≠ [[]]) :
    texts.foldl (pushSegment scheme) ss = ss ++ texts.map (sent scheme) := by
  induction texts generalizing ss with
  | nil => simp
  | cons text texts ih =>
      have hpush : pushSegment scheme ss text = ss ++ [sent scheme text] := by
        rw [pushSegment_of_stays (hstays text (by simp)), opened_of_ne hne',
          if_neg fun hfile => hne hfile.2]
      rw [List.foldl_cons, hpush, ih fun t ht => hstays t (by simp [ht])]
      · simp
      · simp
      · intro heq
        have hlen := congrArg List.length heq
        have hpos := List.length_pos_iff.2 hne
        simp at hlen
        exact hne hlen

/-- Where no text is read as a drive, texts that stay are the segments behind the root. -/
theorem foldl_pushSegment_of_stays {scheme : String} {ss texts : List (List Char)}
    (hstays : ∀ text ∈ texts, Stays text) (hdrive : ¬ MakesDrive scheme ss texts)
    (hne : texts ≠ []) :
    texts.foldl (pushSegment scheme) (dropEmptyLast ss) =
      root ss ++ texts.map (sent scheme) := by
  cases texts with
  | nil => exact absurd rfl hne
  | cons text texts =>
      have hroot : opened (dropEmptyLast ss) = root ss := rfl
      have hfirst : pushSegment scheme (dropEmptyLast ss) text = root ss ++ [sent scheme text] := by
        rw [pushSegment_of_stays (hstays text (by simp)), hroot]
        split
        · rename_i hfile
          have hsame : rootSegments (sent scheme text) = [sent scheme text] :=
            Decidable.byContradiction fun hsplit =>
              hdrive ⟨hfile.1, hfile.2, text, rfl, hsplit⟩
          rw [hsame]
        · rfl
      have hsent : sent scheme text ≠ [] := fun hnil =>
        (hstays text (by simp)).1 (sent_eq_nil_iff.1 hnil)
      rw [List.foldl_cons, hfirst, foldl_pushSegment_of_ne fun t ht => hstays t (by simp [ht])]
      · simp
      · simp
      · intro heq
        cases hr : root ss with
        | nil => simp [hr, hsent] at heq
        | cons s rest => simp [hr] at heq

/-! ## Counting what is added -/

section Count

variable {β : Type} {scheme : String}

/-- A reading of segments that finds nothing in an empty segment and at most one thing in a segment
that was added. -/
structure Counts (scheme : String) (found : List Char → List β) : Prop where
  nil : found [] = []
  sent_le (text : List Char) : (found (sent scheme text)).length ≤ 1

variable {found : List Char → List β}

private theorem flatMap_opened (hfound : Counts scheme found) (ss : List (List Char)) :
    (opened ss).flatMap found = ss.flatMap found := by
  unfold opened
  split
  · rename_i h
    simp [h, hfound.nil]
  · rfl

private theorem length_flatMap_le_of_prefix {xs ys : List (List Char)} (h : xs <+: ys) :
    (xs.flatMap found).length ≤ (ys.flatMap found).length := by
  obtain ⟨rest, rfl⟩ := h
  simp

/-- A text that does not stay adds nothing to be found. -/
private theorem length_flatMap_of_not_stays (hfound : Counts scheme found) {text : List Char}
    (h : ¬ Stays text) (ss : List (List Char)) :
    ((pushSegment scheme ss text).flatMap found).length ≤ (ss.flatMap found).length := by
  obtain ⟨front, tail, heq, hfront, htail⟩ := pushSegment_of_not_stays h scheme ss
  have hnothing : tail.flatMap found = [] := by
    rw [List.flatMap_eq_nil_iff]
    intro s hs
    rw [htail s hs, hfound.nil]
  rw [heq, List.flatMap_append, hnothing, List.append_nil]
  exact length_flatMap_le_of_prefix hfront

/-- Outside of file systems a text adds at most one thing to be found. -/
private theorem length_flatMap_pushSegment_le (hfound : Counts scheme found)
    (hscheme : scheme ≠ fileScheme) (ss : List (List Char)) (text : List Char) :
    ((pushSegment scheme ss text).flatMap found).length ≤ (ss.flatMap found).length + 1 := by
  by_cases h : Stays text
  · have hone := hfound.sent_le text
    rw [pushSegment_of_stays h, if_neg fun hfile => hscheme hfile.1, List.flatMap_append,
      flatMap_opened hfound]
    simpa using hone
  · exact Nat.le_succ_of_le (length_flatMap_of_not_stays hfound h ss)

/-- Outside of file systems texts add at most one thing each. -/
theorem length_foldl_pushSegment_le (hfound : Counts scheme found)
    (hscheme : scheme ≠ fileScheme) (texts ss : List (List Char)) :
    ((texts.foldl (pushSegment scheme) ss).flatMap found).length ≤
      (ss.flatMap found).length + texts.length := by
  induction texts generalizing ss with
  | nil => simp
  | cons text texts ih =>
      have hone := length_flatMap_pushSegment_le hfound hscheme ss text
      have hrest := ih (pushSegment scheme ss text)
      simp only [List.foldl_cons, List.length_cons]
      omega

/--
**No text is lost unnoticed**: outside of file systems, if a path has grown by as much as there
are texts, then every text has stayed.
-/
theorem stays_of_length_foldl_pushSegment (hfound : Counts scheme found)
    (hscheme : scheme ≠ fileScheme) {texts ss : List (List Char)}
    (h : (ss.flatMap found).length + texts.length ≤
      ((texts.foldl (pushSegment scheme) ss).flatMap found).length) :
    ∀ text ∈ texts, Stays text := by
  induction texts generalizing ss with
  | nil => simp
  | cons text texts ih =>
      have hone := length_flatMap_pushSegment_le hfound hscheme ss text
      have hrest := length_foldl_pushSegment_le hfound hscheme texts (pushSegment scheme ss text)
      simp only [List.foldl_cons, List.length_cons] at h
      have hhead : Stays text := by
        refine Decidable.byContradiction fun hnot => ?_
        have hnone := length_flatMap_of_not_stays hfound hnot ss
        omega
      have htail := @ih (pushSegment scheme ss text) (by omega)
      intro t ht
      rcases List.mem_cons.1 ht with rfl | ht
      · exact hhead
      · exact htail t ht

end Count

end Switchboard.Url
