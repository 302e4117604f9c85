import Switchboard.Client.Action

/-!
# Which argument goes where

`Slot.fillAll` walks through the names and fills the first segment that waits
for each.  What comes of it can be said without the walk: the first occurrence
of a name is paired with the first segment that waits for it, the second
occurrence with the second segment, and so on, where names that differ in letter
case only count as one.  `Slot.Paired` is this relation; `fillAll_of_paired` and
`fillAll_of_not_paired` say that the walk puts exactly the paired arguments into
their segments and leaves every other segment as it was.

The induction is on the names.  Filling one segment takes one name and one
waiting segment away, so every later pair keeps both of its counts in step
(`paired_succ_iff`).
-/

namespace Switchboard.Slot

/-- The name at one place is paired with the segment at another: the segment waits for it, and as
many earlier segments wait for the name as there are earlier names equal to it. -/
def Paired (names : List String) (slots : List Slot) (i j : Nat) : Prop :=
  ∃ name slot, names[i]? = some name ∧ slots[j]? = some slot ∧ slot.awaits name = true ∧
    (names.take i).countP (Text.eqIgnoringAsciiCase name) =
      (slots.take j).countP (awaits name)

theorem awaits_declared_iff {name : String} {text : List Char} :
    (declared text).awaits name = true ↔
      text.map Char.toLower = ':' :: name.toList.map Char.toLower := by
  simp [awaits]

@[simp] theorem awaits_filled (name : String) (text : List Char) :
    (filled text).awaits name = false := rfl

/-- A segment waits for one name in all its spellings. -/
theorem awaits_eq_of_awaits {slot : Slot} {name other : String} (h : slot.awaits name = true) :
    slot.awaits other = Text.eqIgnoringAsciiCase other name := by
  cases slot with
  | filled text => simp at h
  | declared text =>
      rw [awaits_declared_iff] at h
      simp only [awaits, Text.eqIgnoringAsciiCase, h, List.cons_beq_cons, beq_self_eq_true,
        Bool.true_and]
      exact Bool.eq_iff_iff.2 ⟨fun heq => by simpa using (beq_iff_eq.1 heq).symm,
        fun heq => by simpa using (beq_iff_eq.1 heq).symm⟩

theorem awaits_congr {name other : String} (h : Text.eqIgnoringAsciiCase other name = true)
    (slot : Slot) : slot.awaits other = slot.awaits name := by
  simp only [Text.eqIgnoringAsciiCase, beq_iff_eq] at h
  cases slot with
  | filled text => rfl
  | declared text => simp [awaits, h]

/-- Where a segment waits for one name and not for another, these are not the same. -/
theorem not_same_of_awaits {slot : Slot} {name other : String} (h : slot.awaits name = false)
    (hother : slot.awaits other = true) : Text.eqIgnoringAsciiCase other name = false := by
  cases hsame : Text.eqIgnoringAsciiCase other name with
  | false => rfl
  | true =>
      rw [awaits_congr hsame, h] at hother
      exact absurd hother (by decide)

private theorem toLower_eq_colon_iff {c : Char} : c.toLower = ':' ↔ c = ':' := by
  constructor
  · intro h
    unfold Char.toLower at h
    split at h
    · rename_i hupper
      have hval := congrArg (fun d => d.val.toNat) h
      simp only [ge_iff_le, UInt32.le_iff_toNat_le] at hupper hval
      simp at hupper hval
      omega
    · exact h
  · rintro rfl
    decide

/-- What waits for a name is a colon and a spelling of the name. -/
theorem exists_of_awaits {slot : Slot} {name : String} (h : slot.awaits name = true) :
    ∃ spelling, slot = declared (':' :: spelling) ∧
      spelling.map Char.toLower = name.toList.map Char.toLower := by
  cases slot with
  | filled text => simp at h
  | declared text =>
      rw [awaits_declared_iff] at h
      cases text with
      | nil => simp at h
      | cons c spelling =>
          simp only [List.map_cons, List.cons.injEq, toLower_eq_colon_iff] at h
          obtain ⟨rfl, hsame⟩ := h
          exact ⟨spelling, rfl, hsame⟩

/-- What waits for a name that is not empty is a colon and another name, which is the same but for
letter case. -/
theorem exists_token_of_awaits {slot : Slot} {name : String} (hname : name ≠ "")
    (h : slot.awaits name = true) :
    ∃ token, token ≠ "" ∧ slot = declared (':' :: token.toList) ∧
      Text.eqIgnoringAsciiCase name token = true := by
  obtain ⟨spelling, rfl, hsame⟩ := exists_of_awaits h
  refine ⟨String.ofList spelling, ?_, by rw [String.toList_ofList], ?_⟩
  · intro hempty
    have hnil := congrArg String.toList hempty
    rw [String.toList_ofList, String.toList_empty] at hnil
    rw [hnil, List.map_nil, eq_comm, List.map_eq_nil_iff] at hsame
    exact hname (String.toList_eq_nil_iff.1 hsame)
  · simp [Text.eqIgnoringAsciiCase, hsame]

/-! ## One step -/

/-- Filling replaces the first segment that waits. -/
theorem fill_eq {name : String} {slots : List Slot} (h : slots.any (awaits name) = true)
    (value : List Char) :
    ∃ before slot after, slots = before ++ slot :: after ∧ slot.awaits name = true ∧
      (∀ s ∈ before, s.awaits name = false) ∧
      fill name value slots = before ++ filled value :: after := by
  induction slots with
  | nil => simp at h
  | cons slot slots ih =>
      by_cases hslot : slot.awaits name = true
      · exact ⟨[], slot, slots, rfl, hslot, by simp, by simp [fill, hslot]⟩
      · simp only [List.any_cons, hslot, Bool.false_or] at h
        obtain ⟨before, s, after, rfl, hs, hbefore, hfill⟩ := ih h
        refine ⟨slot :: before, s, after, rfl, hs, ?_, by simp [fill, hslot, hfill]⟩
        intro x hx
        rcases List.mem_cons.1 hx with rfl | hx
        · simpa using hslot
        · exact hbefore x hx

/-- What one name does: nothing waits for it and it is passed over, or it takes the next argument
into the first segment that waits. -/
theorem fillAll_cons_ok {name : String} {names : List String} {given : List Json}
    {slots result : List Slot} (h : fillAll (name :: names) given slots = .ok result) :
    (slots.any (awaits name) = false ∧ fillAll names given.tail slots = .ok result) ∨
      ∃ value rest before slot after, given = value :: rest ∧ slots = before ++ slot :: after ∧
        slot.awaits name = true ∧ (∀ s ∈ before, s.awaits name = false) ∧
        fillAll names rest (before ++ filled value.plainText :: after) = .ok result := by
  cases hany : slots.any (awaits name) with
  | false => exact .inl ⟨rfl, by simpa [fillAll, hany] using h⟩
  | true =>
      cases given with
      | nil => simp [fillAll, hany] at h
      | cons value rest =>
          obtain ⟨before, slot, after, hslots, hslot, hbefore, hfill⟩ :=
            fill_eq hany value.plainText
          refine .inr ⟨value, rest, before, slot, after, rfl, hslots, hslot, hbefore, ?_⟩
          rw [← hfill]
          simpa [fillAll, hany] using h

/-- No earlier name counts for the first name, so its segment is the first one that waits. -/
theorem paired_zero_iff {name : String} {names : List String} {before after : List Slot}
    {slot : Slot} (hslot : slot.awaits name = true)
    (hbefore : ∀ s ∈ before, s.awaits name = false) {j : Nat} :
    Paired (name :: names) (before ++ slot :: after) 0 j ↔ j = before.length := by
  have hnone : before.countP (awaits name) = 0 := by
    rw [List.countP_eq_zero]
    intro s hs
    simp [hbefore s hs]
  constructor
  · rintro ⟨n, s, hn, hs, hawaits, hcount⟩
    obtain rfl : name = n := by simpa using hn
    rw [List.take_zero, List.countP_nil] at hcount
    rcases Nat.lt_trichotomy j before.length with hlt | heq | hgt
    · rw [List.getElem?_append_left hlt] at hs
      have hmem := List.mem_of_getElem? hs
      rw [hbefore s hmem] at hawaits
      exact absurd hawaits (by decide)
    · exact heq
    · have hmem : slot ∈ (before ++ slot :: after).take j := by
        rw [List.take_append, List.take_of_length_le (by omega),
          show j - before.length = (j - before.length - 1) + 1 by omega, List.take_succ_cons]
        simp
      have hpos := List.countP_pos_iff.2 ⟨slot, hmem, hslot⟩
      omega
  · rintro rfl
    refine ⟨name, slot, rfl, by simp, hslot, ?_⟩
    rw [List.take_zero, List.countP_nil, List.take_left, hnone]

/-- Filling a segment lowers the count of the segments behind it that wait for one of the names
of that segment, and no other count. -/
private theorem countP_take_fill {name other : String} {before after : List Slot} {slot : Slot}
    (hslot : slot.awaits name = true) (value : List Char) (j : Nat) :
    ((before ++ slot :: after).take j).countP (awaits other) =
      ((before ++ filled value :: after).take j).countP (awaits other) +
        (if before.length < j ∧ Text.eqIgnoringAsciiCase other name = true then 1 else 0) := by
  by_cases hj : before.length < j
  · obtain ⟨k, rfl⟩ : ∃ k, j = before.length + (k + 1) := ⟨j - before.length - 1, by omega⟩
    simp only [List.take_length_add_append, List.take_succ_cons, List.countP_append,
      List.countP_cons, awaits_filled, awaits_eq_of_awaits hslot, hj, true_and]
    simp only [Bool.false_eq_true, if_false]
    omega
  · rw [if_neg (by simp [hj]), List.take_append_of_le_length (by omega),
      List.take_append_of_le_length (by omega), Nat.add_zero]

/-- The other segments stay where they are. -/
private theorem getElem?_fill {before after : List Slot} {j : Nat} (hne : j ≠ before.length)
    (slot new : Slot) : (before ++ slot :: after)[j]? = (before ++ new :: after)[j]? := by
  rcases Nat.lt_or_gt_of_ne hne with hlt | hgt
  · rw [List.getElem?_append_left hlt, List.getElem?_append_left hlt]
  · rw [List.getElem?_append_right (by omega), List.getElem?_append_right (by omega),
      show j - before.length = (j - before.length - 1) + 1 by omega]
    rfl

/-- For a segment that goes on waiting, one name less and one segment less change both counts
alike. -/
private theorem counts_step {name n : String} {names : List String} {before after : List Slot}
    {slot s : Slot} (hslot : slot.awaits name = true)
    (hbefore : ∀ t ∈ before, t.awaits name = false) (value : List Char) {i j : Nat}
    (hne : j ≠ before.length) (hs : (before ++ slot :: after)[j]? = some s)
    (hawaits : s.awaits n = true) :
    ((name :: names).take (i + 1)).countP (Text.eqIgnoringAsciiCase n) =
        ((before ++ slot :: after).take j).countP (awaits n) ↔
      (names.take i).countP (Text.eqIgnoringAsciiCase n) =
        ((before ++ filled value :: after).take j).countP (awaits n) := by
  have hbehind : Text.eqIgnoringAsciiCase n name = true → before.length < j := by
    intro hsame
    refine Nat.lt_of_le_of_ne (Nat.le_of_not_lt fun hlt => ?_) (Ne.symm hne)
    rw [List.getElem?_append_left hlt] at hs
    have hother := not_same_of_awaits (hbefore s (List.mem_of_getElem? hs)) hawaits
    rw [hsame] at hother
    exact absurd hother (by decide)
  rw [List.take_succ_cons, List.countP_cons, countP_take_fill hslot value]
  by_cases hsame : Text.eqIgnoringAsciiCase n name = true
  · rw [if_pos hsame, if_pos ⟨hbehind hsame, hsame⟩]
    omega
  · rw [if_neg hsame, if_neg fun h => hsame h.2]
    omega

/-- A name that is used up and the segment it filled can both be forgotten. -/
theorem paired_succ_iff {name : String} {names : List String} {before after : List Slot}
    {slot : Slot} (hslot : slot.awaits name = true)
    (hbefore : ∀ s ∈ before, s.awaits name = false) (value : List Char) {i j : Nat} :
    Paired (name :: names) (before ++ slot :: after) (i + 1) j ↔
      Paired names (before ++ filled value :: after) i j := by
  constructor
  · rintro ⟨n, s, hn, hs, hawaits, heq⟩
    -- the filled segment itself belongs to the name that is used up
    have hne : j ≠ before.length := by
      rintro rfl
      obtain rfl : slot = s := by simpa using hs
      rw [awaits_eq_of_awaits hslot] at hawaits
      have hzero : before.countP (awaits n) = 0 := by
        rw [List.countP_eq_zero]
        intro x hx
        rw [awaits_congr hawaits, hbefore x hx]
        decide
      simp [hzero, hawaits] at heq
    exact ⟨n, s, by simpa using hn, by rw [← getElem?_fill hne slot, hs], hawaits,
      (counts_step hslot hbefore value hne hs hawaits).1 heq⟩
  · rintro ⟨n, s, hn, hs, hawaits, heq⟩
    have hne : j ≠ before.length := by
      rintro rfl
      obtain rfl : filled value = s := by simpa using hs
      simp at hawaits
    rw [← getElem?_fill hne slot] at hs
    exact ⟨n, s, by simpa using hn, hs, hawaits,
      (counts_step hslot hbefore value hne hs hawaits).2 heq⟩

/-- A name for which nothing waits can be forgotten. -/
theorem paired_succ_iff_of_not_awaits {name : String} {slots : List Slot}
    (h : slots.any (awaits name) = false) {names : List String} {i j : Nat} :
    Paired (name :: names) slots (i + 1) j ↔ Paired names slots i j := by
  have hnone : ∀ {n : String} {s : Slot}, slots[j]? = some s → s.awaits n = true →
      Text.eqIgnoringAsciiCase n name = false := by
    intro n s hs hawaits
    have hwaits := List.any_eq_false.1 h s (List.mem_of_getElem? hs)
    exact not_same_of_awaits (by simpa using hwaits) hawaits
  constructor
  · rintro ⟨n, s, hn, hs, hawaits, heq⟩
    refine ⟨n, s, by simpa using hn, hs, hawaits, ?_⟩
    simpa [hnone hs hawaits] using heq
  · rintro ⟨n, s, hn, hs, hawaits, heq⟩
    refine ⟨n, s, by simpa using hn, hs, hawaits, ?_⟩
    simpa [hnone hs hawaits] using heq

/-! ## All steps -/

theorem fillAll_of_not_awaits {slots : List Slot}
    (h : ∀ slot ∈ slots, ∀ name, slot.awaits name = false) (names : List String)
    (given : List Json) : fillAll names given slots = .ok slots := by
  induction names generalizing given with
  | nil => rfl
  | cons name names ih =>
      have hany : slots.any (awaits name) = false := by
        rw [List.any_eq_false]
        intro slot hslot
        simp [h slot hslot name]
      simpa [fillAll, hany] using ih given.tail

theorem not_paired_of_filled {names : List String} {slots : List Slot} {i j : Nat}
    {text : List Char} (h : slots[j]? = some (filled text)) : ¬ Paired names slots i j := by
  rintro ⟨name, slot, -, hslot, hawaits, -⟩
  rw [h, Option.some.injEq] at hslot
  subst hslot
  simp at hawaits

/-- Nothing but the paired segments changes. -/
theorem fillAll_of_not_paired {names : List String} {given : List Json} {slots result : List Slot}
    (h : fillAll names given slots = .ok result) {j : Nat}
    (hnot : ∀ i, ¬ Paired names slots i j) : result[j]? = slots[j]? := by
  induction names generalizing given slots with
  | nil =>
      simp only [fillAll, Except.ok.injEq] at h
      rw [h]
  | cons name names ih =>
      obtain ⟨hany, h⟩ | ⟨value, rest, before, slot, after, rfl, rfl, hslot, hbefore, h⟩ :=
        fillAll_cons_ok h
      · exact ih h fun i hp => hnot (i + 1) ((paired_succ_iff_of_not_awaits hany).2 hp)
      · have hne : j ≠ before.length := fun heq =>
          hnot 0 ((paired_zero_iff hslot hbefore).2 heq)
        rw [ih h fun i hp => hnot (i + 1) ((paired_succ_iff hslot hbefore _).2 hp)]
        exact getElem?_fill hne _ _

/--
**Positional substitution**: a paired segment is filled with the argument of its name.
-/
theorem fillAll_of_paired {names : List String} {given : List Json} {slots result : List Slot}
    (h : fillAll names given slots = .ok result) {i j : Nat} (hp : Paired names slots i j) :
    ∃ value, given[i]? = some value ∧ result[j]? = some (filled value.plainText) := by
  induction names generalizing given slots i with
  | nil =>
      obtain ⟨name, slot, hname, -⟩ := hp
      simp at hname
  | cons name names ih =>
      obtain ⟨hany, h⟩ | ⟨value, rest, before, slot, after, rfl, rfl, hslot, hbefore, h⟩ :=
        fillAll_cons_ok h
      · cases i with
        | zero =>
            obtain ⟨n, slot, hn, hslot, hawaits, -⟩ := hp
            obtain rfl : name = n := by simpa using hn
            have htrue := List.any_eq_true.2 ⟨slot, List.mem_of_getElem? hslot, hawaits⟩
            rw [hany] at htrue
            exact absurd htrue (by decide)
        | succ i =>
            obtain ⟨value, hvalue, hresult⟩ :=
              ih h ((paired_succ_iff_of_not_awaits hany).1 hp)
            exact ⟨value, by simpa using hvalue, hresult⟩
      · cases i with
        | zero =>
            obtain rfl := (paired_zero_iff hslot hbefore).1 hp
            refine ⟨value, rfl, ?_⟩
            have hfilled : (before ++ filled value.plainText :: after)[before.length]? =
                some (filled value.plainText) := by simp
            rw [fillAll_of_not_paired h fun i => not_paired_of_filled hfilled, hfilled]
        | succ i =>
            obtain ⟨v, hv, hresult⟩ := ih h ((paired_succ_iff hslot hbefore _).1 hp)
            exact ⟨v, by simpa using hv, hresult⟩

/-- A segment of the result is filled with the argument of the name paired with it, or it is as it
was and no name is paired with it. -/
theorem getElem?_fillAll {names : List String} {given : List Json} {slots result : List Slot}
    (h : fillAll names given slots = .ok result) (j : Nat) :
    (∃ i value, Paired names slots i j ∧ given[i]? = some value ∧
        result[j]? = some (filled value.plainText)) ∨
      ((∀ i, ¬ Paired names slots i j) ∧ result[j]? = slots[j]?) := by
  by_cases hp : ∃ i, Paired names slots i j
  · obtain ⟨i, hp⟩ := hp
    obtain ⟨value, hvalue, hresult⟩ := fillAll_of_paired h hp
    exact .inl ⟨i, value, hp, hvalue, hresult⟩
  · rw [not_exists] at hp
    exact .inr ⟨hp, fillAll_of_not_paired h hp⟩

theorem length_fillAll {names : List String} {given : List Json} {slots result : List Slot}
    (h : fillAll names given slots = .ok result) : result.length = slots.length := by
  induction names generalizing given slots with
  | nil =>
      simp only [fillAll, Except.ok.injEq] at h
      rw [h]
  | cons name names ih =>
      obtain ⟨-, h⟩ | ⟨value, rest, before, slot, after, -, rfl, -, -, h⟩ := fillAll_cons_ok h
      · exact ih h
      · rw [ih h]
        simp

/-- With an argument for every name nothing is missing. -/
theorem fillAll_isOk {names : List String} {given : List Json} (slots : List Slot)
    (h : names.length ≤ given.length) : ∃ result, fillAll names given slots = .ok result := by
  induction names generalizing given slots with
  | nil => exact ⟨slots, rfl⟩
  | cons name names ih =>
      cases given with
      | nil => simp at h
      | cons value rest =>
          simp only [List.length_cons, Nat.add_le_add_iff_right] at h
          rw [fillAll]
          split
          · exact ih _ h
          · exact ih slots h

end Switchboard.Slot
