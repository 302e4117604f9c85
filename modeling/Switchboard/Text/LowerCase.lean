import Switchboard.Text.LowerCase.Table

/-!
# Lower case

`lowerCase` writes a text in lower case, for every script that has letter case. Names are compared
this way: header names, HTTP method names in documents, and type names.

Two characters need more than a table: the dotted capital I becomes two characters, and a capital
sigma becomes `ς` where it ends a word and `σ` elsewhere. A sigma ends a word when the nearest
character before it that is not skipped has a letter case and the nearest one after it has none.
-/

namespace Switchboard.Text

/-- The character has a letter case. -/
def isCased (c : Char) : Bool := inRanges casedRanges c

/-- The character is skipped when the neighbours of a letter are examined. -/
def isCaseIgnorable (c : Char) : Bool := inRanges caseIgnorableRanges c

/-- The nearest character that is not skipped has a letter case. -/
def startsCased (cs : List Char) : Bool :=
  match cs.dropWhile isCaseIgnorable with
  | [] => false
  | c :: _ => isCased c

/-- The lower-case form of one character, away from its context. -/
def lowerChar (c : Char) : List Char :=
  if c.toNat < 0x80 then [c.toLower]
  else if c = 'İ' then ['i', Char.ofNat 0x307]
  else match lowerRuns.find? (·.covers c) with
    | some run => [run.apply c]
    | none => [c]

/-- `before` holds the characters already passed, nearest first. -/
def lowerCaseFrom (before : List Char) : List Char → List Char
  | [] => []
  | c :: rest =>
    let lowered :=
      if c = 'Σ' then
        if startsCased before && !startsCased rest then ['ς'] else ['σ']
      else lowerChar c
    lowered ++ lowerCaseFrom (c :: before) rest

/-- The text in lower case. -/
def lowerCase (s : String) : String := String.ofList (lowerCaseFrom [] s.toList)

/-- Equality of texts that ignores the case of the letters `A` to `Z` and of no others. -/
def eqIgnoringAsciiCase (a b : String) : Bool :=
  a.toList.map Char.toLower == b.toList.map Char.toLower

theorem eqIgnoringAsciiCase_self (a : String) : eqIgnoringAsciiCase a a = true := by
  simp [eqIgnoringAsciiCase]

theorem eqIgnoringAsciiCase_comm (a b : String) :
    eqIgnoringAsciiCase a b = eqIgnoringAsciiCase b a := by
  simp [eqIgnoringAsciiCase, BEq.comm]

end Switchboard.Text
