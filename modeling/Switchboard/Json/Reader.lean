import Switchboard.Json.Basic
import Switchboard.Number.Literal

/-!
# Reading JSON text

`Json.read` reads one JSON value that takes up the whole text. A text that is not one is refused
with one of two causes: it ended too early, or it has a fault before its end. At most 127 arrays and
objects may be open at once.

A repeated key keeps its first place in the object and its last value. A number without a fraction
and an exponent that fits 64 bits is an integer. Every other number is a double: its digits are
taken as one 64-bit integer, those that no longer fit being dropped, that integer is rounded to a
double and the double is scaled by a power of ten, each step rounded by itself.

Every step of the reader returns what is left of its text with a proof that this is shorter, which
is why the reader ends.
-/

namespace Switchboard

/-- Why a text is no JSON value. -/
inductive JsonFault where
  /-- The text ended inside a value. -/
  | endsEarly
  /-- The text has a fault before its end. -/
  | malformed
  deriving DecidableEq, Repr

namespace Json

/-- What is left of a text after something has been read from it. -/
abbrev Rest (s : List Char) := { r : List Char // r.length < s.length }

/-- The blanks that may stand between the parts of a JSON text. -/
def isSpace (c : Char) : Bool := c == ' ' || c == '\n' || c == '\t' || c == '\r'

/-- The text without the blanks at its start. -/
def skipSpace (s : List Char) : List Char := s.dropWhile isSpace

theorem length_skipSpace_le (s : List Char) : (skipSpace s).length ≤ s.length := by
  unfold skipSpace
  induction s with
  | nil => simp
  | cons c rest ih =>
    simp only [List.dropWhile_cons]
    split
    · exact Nat.le_succ_of_le ih
    · exact Nat.le_refl _

/-! ## Numbers -/

/-- Powers of ten that scale a number by at most this much at a time. -/
def largestScale : Nat := 308

/-- The double nearest to `10 ^ k`, for `k` up to `largestScale`. -/
def powerOfTen (k : Nat) : Double :=
  ((Double.ofNat (Nat.pow 10 k)).finite?).getD (Double.zero false)

/-- Divides by `10 ^ 308` as often as is needed, then by the power of ten that is left. The first
argument bounds the number of divisions by `10 ^ 308`; after four of them nothing is left. -/
def scaleDown : Nat → Double → Nat → Rounded
  | 0, x, _ => .finite (Double.zero x.negative)
  | steps + 1, x, k =>
    if k ≤ largestScale then x.div (powerOfTen k)
    else if x.isZero then .finite x
    else match x.div (powerOfTen largestScale) with
      | .finite y => scaleDown steps y (k - largestScale)
      | .infinite negative => .infinite negative

/-- The double of a 64-bit significand and a power of ten; `none` past the largest double. -/
def scaled (significand : Nat) (exponent : Int) : Option Double :=
  match Double.ofNat significand with
  | .infinite _ => none
  | .finite x =>
    if exponent < 0 then (scaleDown 4 x exponent.natAbs).finite?
    else if exponent.toNat ≤ largestScale then (x.mul (powerOfTen exponent.toNat)).finite?
    else if x.isZero then some x
    else none

/-- The significand with one more digit. -/
def pushDigit (significand : Nat) (digit : Char) : Nat :=
  significand * 10 + (digit.toNat - '0'.toNat)

/-- Takes digits into the significand until it would no longer fit 64 bits; also the digits that
are left. -/
def takeDigits (significand : Nat) : List Char → Nat × List Char
  | [] => (significand, [])
  | c :: rest =>
    if pushDigit significand c < Nat.pow 2 64 then takeDigits (pushDigit significand c) rest
    else (significand, c :: rest)

/-- The greatest exponent that is read exactly; every greater one is as good as it. -/
def exponentLimit : Nat := Nat.pow 2 31 - 1

/-- The value of a numeral; `none` when it is past the largest double. -/
def numberOf (negative : Bool) (whole fraction : List Char) (isPlain : Bool)
    (exponent : Option Int) : Option Number :=
  let (significand, dropped) := takeDigits 0 whole
  let fits := !negative || (0 < significand && significand ≤ Nat.pow 2 63)
  if isPlain && dropped.isEmpty && fits then
    some (.integer (if negative then -significand else significand))
  else
    let (full, left) := takeDigits significand fraction
    let power : Int := (dropped.length : Int) - ((fraction.length - left.length : Nat) : Int)
    let magnitude := match exponent with
      | none => scaled full power
      | some e =>
        if e.natAbs ≤ exponentLimit then scaled full (power + e)
        else if full = 0 ∨ e < 0 then some (Double.zero false)
        else none
    magnitude.map fun x => .double (if negative then x.neg else x)

/-- The digits at the start of a text; there must be one. -/
def readDigits (s : List Char) : Except JsonFault (List Char × List Char) :=
  match s with
  | [] => .error .endsEarly
  | c :: _ => if c.isDigit then .ok (digitRun s, afterDigits s) else .error .malformed

/-- The point and the digits after it, if a point comes next. -/
def readFraction (s : List Char) : Except JsonFault (Option (List Char) × List Char) :=
  match s with
  | '.' :: rest => (readDigits rest).map fun (digits, after) => (some digits, after)
  | _ => .ok (none, s)

/-- The exponent, if one comes next. -/
def readExponent (s : List Char) : Except JsonFault (Option Int × List Char) :=
  match s with
  | c :: rest =>
    if c = 'e' ∨ c = 'E' then
      let (sign, unsigned) := Sign.scan rest
      (readDigits unsigned).map fun (digits, after) =>
        let n : Int := digitsValue digits
        (some (if sign.isMinus then -n else n), after)
    else .ok (none, s)
  | [] => .ok (none, s)

/-- A number; the sign has been read. -/
def readNumber (negative : Bool) (s : List Char) : Except JsonFault (Number × List Char) := do
  let (whole, afterWhole) ← readDigits s
  if whole.head? = some '0' ∧ 1 < whole.length then .error .malformed
  let (fraction, afterFraction) ← readFraction afterWhole
  let (exponent, rest) ← readExponent afterFraction
  let isPlain := fraction.isNone && exponent.isNone
  match numberOf negative whole (fraction.getD []) isPlain exponent with
  | some n => .ok (n, rest)
  | none => .error .malformed

/-! ## Strings -/

/-- The value of a digit of base sixteen. -/
def hexDigit? (c : Char) : Option Nat :=
  if Base.sixteen.isDigit c then some (Base.digitValue c) else none

/-- The number of octets that a text takes. -/
def octetCount : List Char → Nat
  | [] => 0
  | c :: rest => c.utf8Size + octetCount rest

/-- Four digits of base sixteen. Fewer than four octets before the end of the text are an early end,
whatever they are. -/
def readHex4 (s : List Char) : Except JsonFault (Nat × List Char) :=
  if octetCount (s.take 4) < 4 then .error .endsEarly
  else match s with
    | a :: b :: c :: d :: rest =>
      match hexDigit? a, hexDigit? b, hexDigit? c, hexDigit? d with
      | some a, some b, some c, some d => .ok (((a * 16 + b) * 16 + c) * 16 + d, rest)
      | _, _, _, _ => .error .malformed
    | _ => .error .malformed

/-- The character of an escape `\u`, which may take a second escape to complete. -/
def readUnicode (s : List Char) : Except JsonFault (Char × List Char) := do
  let (n, rest) ← readHex4 s
  if 0xDC00 ≤ n ∧ n ≤ 0xDFFF then .error .malformed
  else if n < 0xD800 ∨ 0xDBFF < n then .ok (Char.ofNat n, rest)
  else match rest with
    | [] => .error .endsEarly
    | ['\\'] => .error .endsEarly
    | '\\' :: 'u' :: after =>
      let (low, rest) ← readHex4 after
      if low < 0xDC00 ∨ 0xDFFF < low then .error .malformed
      else .ok (Char.ofNat (0x10000 + (n - 0xD800) * 0x400 + (low - 0xDC00)), rest)
    | _ => .error .malformed

/-- The character of an escape; the backslash has been read. -/
def readEscape (s : List Char) : Except JsonFault (Char × List Char) :=
  match s with
  | [] => .error .endsEarly
  | c :: rest =>
    if c = '"' ∨ c = '\\' ∨ c = '/' then .ok (c, rest)
    else if c = 'b' then .ok (Char.ofNat 8, rest)
    else if c = 'f' then .ok (Char.ofNat 12, rest)
    else if c = 'n' then .ok ('\n', rest)
    else if c = 'r' then .ok ('\r', rest)
    else if c = 't' then .ok ('\t', rest)
    else if c = 'u' then readUnicode rest
    else .error .malformed

theorem length_readHex4 {s rest : List Char} {n : Nat} (h : readHex4 s = .ok (n, rest)) :
    rest.length < s.length := by
  unfold readHex4 at h
  split at h
  · cases h
  · split at h
    · split at h
      · cases h; simp only [List.length_cons]; omega
      · cases h
    · cases h

theorem length_readUnicode {s rest : List Char} {c : Char} (h : readUnicode s = .ok (c, rest)) :
    rest.length < s.length := by
  unfold readUnicode at h
  cases hx : readHex4 s with
  | error e => rw [hx] at h; cases h
  | ok v =>
    obtain ⟨n, after⟩ := v
    have hlen := length_readHex4 hx
    rw [hx] at h
    simp only [bind, Except.bind] at h
    split at h
    · cases h
    · split at h
      · cases h; exact hlen
      · split at h
        · cases h
        · cases h
        · rename_i tail
          cases hy : readHex4 tail with
          | error e => rw [hy] at h; cases h
          | ok v =>
            obtain ⟨low, last⟩ := v
            have := length_readHex4 hy
            rw [hy] at h
            simp only at h
            split at h
            · cases h
            · simp only [Except.ok.injEq, Prod.mk.injEq] at h
              obtain ⟨-, rfl⟩ := h
              simp only [List.length_cons] at hlen
              omega
        · cases h

theorem length_readEscape {s rest : List Char} {c : Char} (h : readEscape s = .ok (c, rest)) :
    rest.length < s.length := by
  unfold readEscape at h
  split at h
  · cases h
  · rename_i head tail
    have step : ∀ {d : Char}, (Except.ok (d, tail) : Except JsonFault _) = .ok (c, rest) →
        rest.length < (head :: tail).length := by
      intro d hd; cases hd; simp
    split at h
    · exact step h
    · split at h
      · exact step h
      · split at h
        · exact step h
        · split at h
          · exact step h
          · split at h
            · exact step h
            · split at h
              · exact step h
              · split at h
                · have := length_readUnicode h; simp only [List.length_cons]; omega
                · cases h

/-- The characters of a string up to its closing quotation mark, after those already read, which
are kept in reverse. -/
def readString (done : List Char) (s : List Char) : Except JsonFault (String × List Char) :=
  match s with
  | [] => .error .endsEarly
  | c :: rest =>
    if c = '"' then .ok (String.ofList done.reverse, rest)
    else if c = '\\' then
      match h : readEscape rest with
      | .error e => .error e
      | .ok (d, after) =>
        have := length_readEscape h
        readString (d :: done) after
    else if c.toNat < 0x20 then .error .malformed
    else readString (c :: done) rest
termination_by s.length

theorem length_readString {done s rest : List Char} {text : String}
    (h : readString done s = .ok (text, rest)) : rest.length < s.length := by
  fun_induction readString done s with
  | case1 => cases h
  | case2 => cases h; simp
  | case3 => cases h
  | case4 =>
    rename_i hlen ih
    have := ih h
    simp only [List.length_cons]
    omega
  | case5 => cases h
  | case6 done c tail _ _ _ ih =>
    have := ih h
    simp only [List.length_cons]
    omega

/-! ## Values -/

/-- The rest of a word of which the first character has been read. -/
def readWord : List Char → List Char → Except JsonFault (List Char)
  | [], s => .ok s
  | _ :: _, [] => .error .endsEarly
  | w :: word, c :: rest => if w = c then readWord word rest else .error .malformed

/-- The result, if something was read, and otherwise a fault; every reader below consumes. -/
def consumed {α : Type} (s r : List Char) (value : α) : Except JsonFault (α × Rest s) :=
  if h : r.length < s.length then .ok (value, ⟨r, h⟩) else .error .malformed

mutual
/-- A value inside `127 - depth` open arrays and objects. -/
def readValue (depth : Nat) (s : List Char) : Except JsonFault (Json × Rest s) :=
  match s with
  | [] => .error .endsEarly
  | c :: rest =>
    if isSpace c then
      match readValue depth rest with
      | .error e => .error e
      | .ok (value, ⟨r, hr⟩) => .ok (value, ⟨r, by simp only [List.length_cons]; omega⟩)
    else if c = 'n' then (readWord ['u', 'l', 'l'] rest).bind fun r => consumed _ r .null
    else if c = 't' then (readWord ['r', 'u', 'e'] rest).bind fun r => consumed _ r (.bool true)
    else if c = 'f' then
      (readWord ['a', 'l', 's', 'e'] rest).bind fun r => consumed _ r (.bool false)
    else if c = '-' then (readNumber true rest).bind fun (n, r) => consumed _ r (.number n)
    else if c.isDigit then
      (readNumber false (c :: rest)).bind fun (n, r) => consumed _ r (.number n)
    else if c = '"' then
      match h : readString [] rest with
      | .error e => .error e
      | .ok (text, r) =>
        .ok (.string text, ⟨r, by have := length_readString h; simp only [List.length_cons]; omega⟩)
    else if c = '[' then
      match depth with
      | 0 => .error .malformed
      | depth + 1 =>
        match readItems depth true [] rest with
        | .error e => .error e
        | .ok (items, ⟨r, hr⟩) =>
          .ok (.array items, ⟨r, by simp only [List.length_cons]; omega⟩)
    else if c = '{' then
      match depth with
      | 0 => .error .malformed
      | depth + 1 =>
        match readMembers depth true [] rest with
        | .error e => .error e
        | .ok (members, ⟨r, hr⟩) =>
          .ok (.object members, ⟨r, by simp only [List.length_cons]; omega⟩)
    else .error .malformed
termination_by 2 * s.length
decreasing_by all_goals (simp only [List.length_cons]; omega)

/-- The items of an array up to its closing bracket, after those already read, which are kept in
reverse. -/
def readItems (depth : Nat) (first : Bool) (done : List Json) (s : List Char) :
    Except JsonFault (List Json × Rest s) :=
  match hs : skipSpace s with
  | [] => .error .endsEarly
  | c :: rest =>
    have hlen : rest.length < s.length := by
      have := length_skipSpace_le s
      rw [hs] at this
      simp only [List.length_cons] at this
      omega
    if c = ']' then .ok (done.reverse, ⟨rest, hlen⟩)
    else
      let separated : Except JsonFault { r : List Char // r.length ≤ s.length } :=
        if first then .ok ⟨c :: rest, by simp only [List.length_cons]; omega⟩
        else if c = ',' then
          match skipSpace rest with
          | [] => .error .endsEarly
          | d :: _ => if d = ']' then .error .malformed else .ok ⟨rest, by omega⟩
        else .error .malformed
      match separated with
      | .error e => .error e
      | .ok ⟨start, hstart⟩ =>
        match readValue depth start with
        | .error e => .error e
        | .ok (value, ⟨r, hr⟩) =>
          match readItems depth false (value :: done) r with
          | .error e => .error e
          | .ok (items, ⟨r', hr'⟩) => .ok (items, ⟨r', by omega⟩)
termination_by 2 * s.length + 1
decreasing_by all_goals omega

/-- The members of an object up to its closing brace, after those already read. -/
def readMembers (depth : Nat) (first : Bool) (done : Entries Json) (s : List Char) :
    Except JsonFault (Entries Json × Rest s) :=
  match hs : skipSpace s with
  | [] => .error .endsEarly
  | c :: rest =>
    have hlen : rest.length < s.length := by
      have := length_skipSpace_le s
      rw [hs] at this
      simp only [List.length_cons] at this
      omega
    if c = '}' then .ok (done, ⟨rest, hlen⟩)
    else
      let opened : Except JsonFault { r : List Char // r.length < s.length } :=
        if first then
          if c = '"' then .ok ⟨rest, hlen⟩ else .error .malformed
        else if c = ',' then
          match hn : skipSpace rest with
          | [] => .error .endsEarly
          | d :: after =>
            if d = '"' then
              .ok ⟨after, by
                have := length_skipSpace_le rest
                rw [hn] at this
                simp only [List.length_cons] at this
                omega⟩
            else .error .malformed
        else .error .malformed
      match opened with
      | .error e => .error e
      | .ok ⟨start, hstart⟩ =>
        match hk : readString [] start with
        | .error e => .error e
        | .ok (key, afterKey) =>
          have hkey := length_readString hk
          match hc : skipSpace afterKey with
          | [] => .error .endsEarly
          | colon :: afterColon =>
            have hcolon : afterColon.length < afterKey.length := by
              have := length_skipSpace_le afterKey
              rw [hc] at this
              simp only [List.length_cons] at this
              omega
            if colon = ':' then
              match readValue depth afterColon with
              | .error e => .error e
              | .ok (value, ⟨r, hr⟩) =>
                match readMembers depth false (Entries.set done key value) r with
                | .error e => .error e
                | .ok (members, ⟨r', hr'⟩) => .ok (members, ⟨r', by omega⟩)
            else .error .malformed
termination_by 2 * s.length + 1
decreasing_by all_goals omega
end

/-- The number of arrays and objects that may be open at once. -/
def depthLimit : Nat := 127

/-- The value that a text holds. -/
def read (s : String) : Except JsonFault Json :=
  match readValue depthLimit s.toList with
  | .error e => .error e
  | .ok (value, ⟨rest, _⟩) =>
    if skipSpace rest = [] then .ok value else .error .malformed

end Json

end Switchboard
