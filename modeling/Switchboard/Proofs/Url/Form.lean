import Switchboard.Proofs.Text.Split
import Switchboard.Proofs.Url.Percent
import Switchboard.Url.Form

/-!
# Round trip of queries

The pairs that are written into a query are the pairs that are read from it, in
the same order and with repeated names: `readPairs_formPairs`.  Neither `&` nor
`=` nor `+` stands in a written name or value, so the query is cut where it was
joined, and the plus signs in it are the spaces.
-/

namespace Switchboard.Url

/-- What is encoded in a name or a value, spaces apart. -/
def formSet : EncodeSet := fun c => !isFormSafe c && c != ' '

private theorem formText_cons (c : Char) (cs : List Char) :
    formText (c :: cs) =
      (if c = ' ' then ['+'] else encodeChar (fun d => !isFormSafe d) c) ++ formText cs := rfl

/-- The octets of a character are written the same way whether spaces count or not. -/
private theorem encodeChar_formSet {c : Char} (h : c ≠ ' ') :
    encodeChar (fun d => !isFormSafe d) c = encodeChar formSet c := by
  simp [encodeChar, formSet, h]

theorem notMem_formText {x : Char} (hsafe : isFormSafe x = false) (hesc : IsOutsideEscapes x)
    (hplus : x ≠ '+') (cs : List Char) : x ∉ formText cs := by
  induction cs with
  | nil => simp [formText]
  | cons c cs ih =>
      rw [formText_cons, List.mem_append, not_or]
      refine ⟨?_, ih⟩
      split
      · simpa using hplus
      · have hmem : x ∉ encode (fun d => !isFormSafe d) [c] :=
          notMem_encode (by simp [hsafe]) hesc [c]
        simpa [encode] using hmem

/-- With spaces in the place of the plus signs, a name or a value is encoded text. -/
theorem map_plus_formText (cs : List Char) :
    (formText cs).map (fun c => if c = '+' then ' ' else c) = encode formSet cs := by
  induction cs with
  | nil => rfl
  | cons c cs ih =>
      rw [formText_cons, List.map_append, ih]
      show _ = encodeChar formSet c ++ encode formSet cs
      congr 1
      by_cases hc : c = ' '
      · subst hc
        decide
      · rw [if_neg hc, encodeChar_formSet hc]
        have hplus : '+' ∉ encodeChar formSet c := by
          have hmem : '+' ∉ encode formSet [c] := notMem_encode (by decide) (by decide) [c]
          simpa [encode] using hmem
        conv => rhs; rw [← List.map_id (encodeChar formSet c)]
        refine List.map_congr_left fun d hd => ?_
        rw [if_neg (by rintro rfl; exact hplus hd)]
        rfl

theorem unformText_formText (text : String) : unformText (formText text.toList) = text := by
  rw [unformText, map_plus_formText, decode_encode (by decide), String.ofList_toList]

/-! ## Pairs -/

/-- A pair as it stands in a query. -/
def formPair (pair : String × String) : List Char :=
  formText pair.1.toList ++ '=' :: formText pair.2.toList

theorem formPairs_eq_join (pairs : List (String × String)) :
    formPairs pairs = Text.join '&' (pairs.map formPair) := by
  induction pairs with
  | nil => rfl
  | cons pair pairs ih =>
      cases pairs with
      | nil => rfl
      | cons next rest =>
          simp only [formPairs, List.map_cons, Text.join] at ih ⊢
          rw [ih]
          simp [formPair]

theorem readPair_formPair (pair : String × String) : readPair (formPair pair) = pair := by
  have heq : '=' ∉ formText pair.1.toList :=
    notMem_formText (by decide) (by decide) (by decide) _
  rw [readPair, formPair, Text.splitOnce_append heq]
  dsimp only
  rw [unformText_formText, unformText_formText]

/--
**Round trip of queries**: the pairs that are written are the pairs that are read.
-/
theorem readPairs_formPairs (pairs : List (String × String)) :
    readPairs (formPairs pairs) = pairs := by
  have hpieces : ∀ piece ∈ pairs.map formPair, piece ≠ [] ∧ '&' ∉ piece := by
    intro piece hpiece
    obtain ⟨pair, -, rfl⟩ := List.mem_map.1 hpiece
    have hname : '&' ∉ formText pair.1.toList :=
      notMem_formText (by decide) (by decide) (by decide) _
    have hvalue : '&' ∉ formText pair.2.toList :=
      notMem_formText (by decide) (by decide) (by decide) _
    simp [formPair, hname, hvalue]
  rw [readPairs, formPairs_eq_join, Text.parts_join hpieces, List.map_map]
  conv => rhs; rw [← List.map_id pairs]
  exact List.map_congr_left fun pair _ => readPair_formPair pair

end Switchboard.Url
