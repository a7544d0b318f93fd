import RecordStore.Number.Wide

/-!
Numbers written in a text: a sign, digits around a point, and an exponent. What number the
digits make is up to the reader: one reads a text column's number, another a document's.
-/
namespace RecordStore

structure NumericText where
  negative : Bool
  whole : List Nat
  fraction : Option (List Nat)
  exponent : Option Int

namespace NumericText

def isSpace (c : Char) : Bool := c == ' ' || (9 ≤ c.toNat && c.toNat ≤ 13)

def digitValue (c : Char) : Nat := c.toNat - '0'.toNat

def readSign : List Char → Bool × List Char
  | '-' :: rest => (true, rest)
  | '+' :: rest => (false, rest)
  | rest => (false, rest)

def readDigits (cs : List Char) : List Nat × List Char :=
  ((cs.takeWhile Char.isDigit).map digitValue, cs.dropWhile Char.isDigit)

def readFraction : List Char → Option (List Nat) × List Char
  | '.' :: rest => ((some (readDigits rest).1), (readDigits rest).2)
  | rest => (none, rest)

def exponentLimit : Nat := 10000

def exponentValue (digits : List Nat) : Nat :=
  digits.foldl (fun e d => if e < exponentLimit then e * 10 + d else exponentLimit) 0

def readExponent : List Char → Option (Option Int × List Char)
  | c :: rest =>
    if c = 'e' ∨ c = 'E' then
      let (negative, rest) := readSign rest
      let (digits, rest) := readDigits rest
      let size := exponentValue digits
      if digits.isEmpty then none
      else some (some (if negative then -(size : Int) else size), rest)
    else some (none, c :: rest)
  | [] => some (none, [])

/-- Reads a whole text as a number. Blanks may surround it, a sign and an exponent are
optional, and a digit must stand before or after the point. -/
def read? (s : String) : Option NumericText := do
  let (negative, cs) := readSign (s.toList.dropWhile isSpace)
  let (whole, cs) := readDigits cs
  let (fraction, cs) := readFraction cs
  guard !(whole.isEmpty && (fraction.getD []).isEmpty)
  let (exponent, cs) ← readExponent cs
  guard (cs.all isSpace)
  return ⟨negative, whole, fraction, exponent⟩

def isWhole (n : NumericText) : Bool := n.fraction.isNone && n.exponent.isNone

def toInt (n : NumericText) : Int :=
  let size : Nat := n.whole.foldl (fun m d => m * 10 + d) 0
  if n.negative then -(size : Int) else size

def takeDigits (room : Nat → Nat → Bool) : Nat → List Nat → Nat × List Nat
  | n, [] => (n, [])
  | n, d :: rest => if room n d then takeDigits room (n * 10 + d) rest else (n, d :: rest)

/-- The decimal of the leading digits, as many as there is room for. A whole digit left out
raises the exponent, and a digit behind the point lowers it. -/
def toDecimal (room : Nat → Nat → Bool) (n : NumericText) : Decimal :=
  let fraction := n.fraction.getD []
  let (digits, left) := takeDigits room 0 n.whole
  let (digits, unread) := takeDigits room digits fraction
  let taken : Int := fraction.length - unread.length
  ⟨digits, n.exponent.getD 0 + (left.length : Int) - taken⟩

def maxWord : Nat := 18446744073709551615

def roomForAny (n _ : Nat) : Bool := decide (n < (maxWord - 9) / 10)

def appendZeros : Nat → Nat → Nat × Nat
  | n, 0 => (n, 0)
  | n, places + 1 =>
    if n < maxWord / 10 then appendZeros (n * 10) places else (n, places + 1)

def cutZeros : Nat → Nat → Nat × Nat
  | n, 0 => (n, 0)
  | n, places + 1 => if n % 10 = 0 then cutZeros (n / 10) places else (n, places + 1)

/-- The number of a decimal whose digits fit a word. Without an exponent, or once it is
used up by zeros, that is the nearest one; otherwise the digits are scaled in steps. -/
def scaledReal (negative : Bool) (d : Decimal) : Real64 :=
  let (digits, places) :=
    if 0 ≤ d.exponent then appendZeros d.digits d.exponent.natAbs
    else cutZeros d.digits d.exponent.natAbs
  if d.digits = 0 then Real64.ofWord negative 0
  else if places = 0 then Real64.ofRatio negative digits 1
  else if 0 ≤ d.exponent then ((Wide.ofNat digits).raise places).toReal negative
  else ((Wide.ofNat digits).lower places).toReal negative

def toReal (n : NumericText) : Real64 := scaledReal n.negative (n.toDecimal roomForAny)

end NumericText

end RecordStore
