import Switchboard.Text.Composed.Table
import Switchboard.Text.Mark
import Switchboard.Text.Split

/-!
# Composed text

A letter with a mark can often be written in two ways: as the letter and the mark behind it, or as
one character. `composed` writes every text in one way. It takes all characters apart
(`decompose`), puts the marks behind each letter in the order of their classes (`arrange`), and puts
together again what makes one character (`compose`). Syllables of the Korean script are put together
by arithmetic, all other characters by a table.

Characters that are nothing but other ways of writing one character, such as the sign for ohms, are
left as they are: who compares names folds these first.
-/

namespace Switchboard.Text

/-! ## Korean syllables -/

/-- The first syllable. -/
def firstSyllable : Nat := 0xAC00

/-- The first of the leading consonants. -/
def firstLead : Nat := 0x1100

/-- The first of the vowels. -/
def firstVowel : Nat := 0x1161

/-- One less than the first of the trailing consonants: none stands for no consonant. -/
def noTrail : Nat := 0x11A7

/-- The count of leading consonants. -/
def leads : Nat := 19

/-- The count of vowels. -/
def vowels : Nat := 21

/-- The count of trailing consonants, none included. -/
def trails : Nat := 28

/-- The parts of a syllable. -/
def syllableParts? (c : Char) : Option (List Char) :=
  let place := c.toNat - firstSyllable
  if firstSyllable ≤ c.toNat ∧ place < leads * vowels * trails then
    let lead := Char.ofNat (firstLead + place / (vowels * trails))
    let vowel := Char.ofNat (firstVowel + place / trails % vowels)
    let trail := place % trails
    some (lead :: vowel :: if trail = 0 then [] else [Char.ofNat (noTrail + trail)])
  else none

/-- The syllable that a syllable or a consonant and the part behind it make. -/
def joinSyllable? (a b : Char) : Option Char :=
  let lead := a.toNat - firstLead
  let vowel := b.toNat - firstVowel
  let place := a.toNat - firstSyllable
  let trail := b.toNat - noTrail
  if firstLead ≤ a.toNat ∧ lead < leads ∧ firstVowel ≤ b.toNat ∧ vowel < vowels then
    some (Char.ofNat (firstSyllable + (lead * vowels + vowel) * trails))
  else if firstSyllable ≤ a.toNat ∧ place < leads * vowels * trails ∧ place % trails = 0
      ∧ noTrail < b.toNat ∧ trail < trails then
    some (Char.ofNat (a.toNat + trail))
  else none

/-! ## Characters with a mark -/

/-- The pairs of a row: a character without the mark and the same with it. -/
def MarkRow.entries (row : MarkRow) : List (Char × Char) :=
  (parts ' ' row.pairs.toList).filterMap fun
    | [base, whole] => some (base, whole)
    | _ => none

/-- The marks, each with pairs of a character without it and the same with it. -/
def markPairs : List (Char × List (Char × Char)) :=
  markRows.map fun row => (Char.ofNat row.mark, row.entries)

/-- The character that a character and a mark make. -/
def joinMark? (base mark : Char) : Option Char :=
  if mark.toNat < firstMark then none
  else
    markPairs.findSome? fun (m, pairs) =>
      if m = mark then (pairs.find? fun pair => pair.1 == base).map (·.2) else none

/-- The first code point of a character with a mark. -/
def firstMarked : Nat := 0xC0

/-- The character and the mark that a character is made of. -/
def splitMark? (c : Char) : Option (Char × Char) :=
  if c.toNat < firstMarked then none
  else
    markPairs.findSome? fun (m, pairs) =>
      (pairs.find? fun pair => pair.2 == c).map fun pair => (pair.1, m)

/-! ## Whole texts -/

/-- The marks that a character may have one after another. -/
def maxMarks : Nat := 3

/-- A character in its parts, with at most so many marks taken from it. -/
def charParts : Nat → Char → List Char
  | 0, c => [c]
  | n + 1, c =>
    match splitMark? c with
    | some (base, mark) => charParts n base ++ [mark]
    | none => (syllableParts? c).getD [c]

/-- All characters in their parts. -/
def decompose (cs : List Char) : List Char := cs.flatMap (charParts maxMarks)

/-- Puts a character before others: behind the marks that come first by their class. -/
def insertMark (c : Char) : List Char → List Char
  | [] => [c]
  | d :: rest =>
    if combiningClass d ≠ 0 ∧ combiningClass d < combiningClass c then d :: insertMark c rest
    else c :: d :: rest

/-- The marks behind each character in the order of their classes. -/
def arrange : List Char → List Char
  | [] => []
  | c :: rest => if combiningClass c = 0 then c :: arrange rest else insertMark c (arrange rest)

/-- The character that two make. -/
def join? (a b : Char) : Option Char := (joinMark? a b).or (joinSyllable? a b)

/-- Puts together the characters behind `base`. Between them and the base stand only the marks in
`passed`, the last of which has the class `reached`. A character meets the base if no mark of its
class or of a higher one stands between. -/
def composeFrom (base : Char) (passed : List Char) (reached : Nat) : List Char → List Char
  | [] => base :: passed
  | c :: rest =>
    let number := combiningClass c
    match if passed = [] ∨ reached < number then join? base c else none with
    | some whole => composeFrom whole passed reached rest
    | none =>
      if number = 0 then base :: passed ++ composeFrom c [] 0 rest
      else composeFrom base (passed ++ [c]) number rest

/-- Puts together all characters that make one. -/
def compose : List Char → List Char
  | [] => []
  | c :: rest => composeFrom c [] 0 rest

/-- The text in the one way in which it is compared. -/
def composed (cs : List Char) : List Char := compose (arrange (decompose cs))

end Switchboard.Text
