import Switchboard.Text.Quoted.Table

/-!
# Quoted text

How a text is shown inside a message: between quotation marks, with a backslash before a quotation
mark and before a backslash, the usual short forms for tab, line feed, carriage return and the
null character, and the code point in braces for every other character that cannot be seen by
itself.
-/

namespace Switchboard.Text

/-- The digits of `n` in base sixteen, in lower case. -/
def hexText (n : Nat) : List Char := Nat.toDigits 16 n

/-- The character can be seen by itself. -/
def isVisible (c : Char) : Bool := !inRanges attachedRanges c && !inRanges invisibleRanges c

/-- One character as it stands between the quotation marks. -/
def quotedChar (c : Char) : List Char :=
  if c = '"' then ['\\', '"']
  else if c = '\\' then ['\\', '\\']
  else if c = '\t' then ['\\', 't']
  else if c = '\n' then ['\\', 'n']
  else if c = '\r' then ['\\', 'r']
  else if c.toNat = 0 then ['\\', '0']
  else if isVisible c then [c]
  else ['\\', 'u', '{'] ++ hexText c.toNat ++ ['}']

/-- The text between quotation marks. -/
def quoted (s : String) : String :=
  String.ofList ('"' :: s.toList.flatMap quotedChar ++ ['"'])

end Switchboard.Text
