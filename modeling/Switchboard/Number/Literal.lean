import Switchboard.Number.Double

/-!
# Numerals at the start of a text

Parameters arrive as text, and a number is read from the start of a text: `12.5kg` holds the number
`12.5`. `Literal.scan` finds the longest decimal numeral that a text starts with, and
`Literal.value` is the double nearest to it. `WholeLiteral.scan` does the same for whole numbers,
which may also be written in base sixteen.

A scanned numeral can be written back (`text`), so that what was read and what was left over make
up the text again.
-/

namespace Switchboard

/-- The sign in front of a numeral. -/
inductive Sign where
  | none
  | plus
  | minus
  deriving DecidableEq, Repr

namespace Sign

/-- The sign at the start of a text, and the text after it. -/
def scan : List Char → Sign × List Char
  | '+' :: rest => (.plus, rest)
  | '-' :: rest => (.minus, rest)
  | cs => (.none, cs)

/-- The sign as it is written. -/
def text : Sign → List Char
  | none => []
  | plus => ['+']
  | minus => ['-']

/-- The sign is a minus sign. -/
def isMinus : Sign → Bool
  | minus => true
  | _ => false

/-- What was scanned and what is left make up the text. -/
theorem text_scan (cs : List Char) : (scan cs).1.text ++ (scan cs).2 = cs := by
  unfold scan
  split <;> rfl

end Sign

/-- The digits of base ten at the start of a text. -/
def digitRun (cs : List Char) : List Char := cs.takeWhile Char.isDigit

/-- What follows the digits at the start of a text. -/
def afterDigits (cs : List Char) : List Char := cs.dropWhile Char.isDigit

theorem digitRun_append_afterDigits (cs : List Char) : digitRun cs ++ afterDigits cs = cs :=
  List.takeWhile_append_dropWhile

/-- The number that a list of digits of base ten denotes. -/
def digitsValue (digits : List Char) : Nat :=
  digits.foldl (fun n c => n * 10 + (c.toNat - '0'.toNat)) 0

/-- The exponent of a numeral: `e` or `E`, a sign, and at least one digit. -/
structure Exponent where
  mark : Char
  sign : Sign
  digits : List Char
  deriving DecidableEq, Repr

namespace Exponent

/-- The exponent at the start of a text, and the text after it. -/
def scan : List Char → Option Exponent × List Char
  | [] => (none, [])
  | c :: rest =>
    if c = 'e' ∨ c = 'E' then
      let (sign, after) := Sign.scan rest
      if digitRun after = [] then (none, c :: rest)
      else (some ⟨c, sign, digitRun after⟩, afterDigits after)
    else (none, c :: rest)

/-- The exponent as it is written. -/
def text (e : Exponent) : List Char := e.mark :: e.sign.text ++ e.digits

/-- The power of ten. -/
def value (e : Exponent) : Int :=
  if e.sign.isMinus then -(digitsValue e.digits : Int) else digitsValue e.digits

end Exponent

/-- A decimal numeral: a sign, digits with or without a point among them, and an exponent. -/
structure Literal where
  sign : Sign
  whole : List Char
  /-- The digits after the point; `none` when there is no point. -/
  fraction : Option (List Char)
  exponent : Option Exponent
  deriving DecidableEq, Repr

namespace Literal

/-- The point and the digits after it, at the start of a text that follows the digits `whole`. A
point needs a digit on one side of it. -/
def scanFraction (whole : List Char) : List Char → Option (List Char) × List Char
  | '.' :: rest =>
    if whole = [] ∧ digitRun rest = [] then (none, '.' :: rest)
    else (some (digitRun rest), afterDigits rest)
  | cs => (none, cs)

/-- The longest decimal numeral at the start of a text, and the text after it. -/
def scan (cs : List Char) : Option (Literal × List Char) :=
  let (sign, unsigned) := Sign.scan cs
  let whole := digitRun unsigned
  let (fraction, afterFraction) := scanFraction whole (afterDigits unsigned)
  if whole = [] ∧ fraction = none then none
  else
    let (exponent, rest) := Exponent.scan afterFraction
    some (⟨sign, whole, fraction, exponent⟩, rest)

/-- The numeral as it is written. -/
def text (l : Literal) : List Char :=
  l.sign.text ++ l.whole
    ++ (match l.fraction with | some digits => '.' :: digits | none => [])
    ++ (match l.exponent with | some e => e.text | none => [])

/-- The double nearest to the numeral. -/
def value (l : Literal) : Rounded :=
  let fraction := l.fraction.getD []
  let power := match l.exponent with | some e => e.value | none => 0
  Double.ofDecimal l.sign.isMinus (digitsValue (l.whole ++ fraction)) (power - fraction.length)

end Literal

/-- The base of a whole numeral. -/
inductive Base where
  | ten
  | sixteen
  deriving DecidableEq, Repr

namespace Base

/-- The size of the base. -/
def size : Base → Nat
  | ten => 10
  | sixteen => 16

/-- The character is a digit of the base. -/
def isDigit (b : Base) (c : Char) : Bool :=
  match b with
  | ten => c.isDigit
  | sixteen => c.isDigit || ('a' ≤ c && c ≤ 'f') || ('A' ≤ c && c ≤ 'F')

/-- The value of a digit. -/
def digitValue (c : Char) : Nat :=
  if c.isDigit then c.toNat - '0'.toNat
  else if 'a' ≤ c then c.toNat - 'a'.toNat + 10
  else c.toNat - 'A'.toNat + 10

/-- The number that a list of digits of the base denotes. -/
def value (b : Base) (digits : List Char) : Nat :=
  digits.foldl (fun n c => n * b.size + digitValue c) 0

/-- The base named at the start of a text, and the text after its name: `0x` or `0X` for base
sixteen, nothing for base ten. -/
def scan : List Char → Base × List Char
  | '0' :: 'x' :: rest => (.sixteen, rest)
  | '0' :: 'X' :: rest => (.sixteen, rest)
  | cs => (.ten, cs)

end Base

/-- A whole numeral: a sign, a base, and at least one digit of the base. -/
structure WholeLiteral where
  sign : Sign
  base : Base
  digits : List Char
  deriving DecidableEq, Repr

namespace WholeLiteral

/-- The longest whole numeral at the start of a text. -/
def scan (cs : List Char) : Option WholeLiteral :=
  let (sign, unsigned) := Sign.scan cs
  let (base, rest) := Base.scan unsigned
  let digits := rest.takeWhile base.isDigit
  if digits = [] then none else some ⟨sign, base, digits⟩

/-- The double nearest to the numeral. A numeral of base sixteen is given up past 64 bits. -/
def value (l : WholeLiteral) : Option Rounded :=
  let n := l.base.value l.digits
  if l.base = .sixteen ∧ Nat.pow 2 64 ≤ n then none
  else some (Double.roundRatio l.sign.isMinus n 1)

end WholeLiteral

end Switchboard
