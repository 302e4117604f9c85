/-!
# Ranges of code points

A property of characters is stored as a list of ranges; a letter-case mapping as a list of runs in
which every `step`-th character moves by one and the same distance.
-/

namespace Switchboard.Text

/-- The character is one of ASCII. -/
def isAscii (c : Char) : Bool := c.toNat < 0x80

/-- The code points from `first` to `last`, both included. -/
structure CodeRange where
  first : Nat
  last : Nat
  deriving DecidableEq, Repr

/-- The character lies in one of the ranges. -/
def inRanges (ranges : List CodeRange) (c : Char) : Bool :=
  ranges.any fun r => r.first ≤ c.toNat && c.toNat ≤ r.last

/-- The code points `first`, `first + step`, … up to `last`, each moved by `shift`. -/
structure CaseRun where
  first : Nat
  last : Nat
  step : Nat
  shift : Int
  deriving DecidableEq, Repr

/-- The run moves the character. -/
def CaseRun.covers (run : CaseRun) (c : Char) : Bool :=
  run.first ≤ c.toNat && c.toNat ≤ run.last && (c.toNat - run.first) % run.step == 0

/-- Where the run puts the character. -/
def CaseRun.apply (run : CaseRun) (c : Char) : Char :=
  Char.ofNat ((c.toNat : Int) + run.shift).toNat

end Switchboard.Text
