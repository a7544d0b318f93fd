import RecordStore.Number.Real

/-!
Decimal text of binary64 numbers. A decimal is a natural number of units of a power of
ten; the shortest decimal of a number is the one with the fewest digits that rounds back.
-/
namespace RecordStore

-- Powers of numbers are those of the core library, whatever algebra is imported beside it.
attribute [local instance (high)] instPowNat instNatPowNat

structure Decimal where
  digits : Nat
  exponent : Int
deriving DecidableEq

/-- Which of two neighbouring decimals stands for a number in the middle between them: the
upper one, or the one whose last digit is even. -/
inductive Tie
  | upper
  | even
deriving DecidableEq

def Tie.goesUp : Tie → Nat → Bool
  | .upper, _ => true
  | .even, digits => digits % 2 == 1

namespace Decimal

def ratio (d : Decimal) : Nat × Nat :=
  if d.exponent < 0 then (d.digits, 10 ^ d.exponent.natAbs)
  else (d.digits * 10 ^ d.exponent.natAbs, 1)

def toReal (negative : Bool) (d : Decimal) : Real64 :=
  Real64.ofRatio negative d.ratio.1 d.ratio.2

def below (n d : Nat) (k : Int) : Bool :=
  if k < 0 then decide (n * 10 ^ k.natAbs < d) else decide (n < d * 10 ^ k.natAbs)

/-- The least `k` with `n / d < 10 ^ k`. Two bounds on the binary logarithm leave four
candidates. -/
def point (n d : Nat) : Int :=
  let low : Int := ((n.log2 : Int) - d.log2 - 1) * 1233 / 4096 - 1
  ([low, low + 1, low + 2, low + 3].find? (below n d ·)).getD (low + 4)

def atScale (n d : Nat) (p : Int) : Nat × Nat × Nat :=
  let (n, d) := if p < 0 then (n * 10 ^ p.natAbs, d) else (n, d * 10 ^ p.natAbs)
  (n / d, n % d, d)

/-- The neighbour of the number on the grid of `count` digits that rounds back to it, the
nearer one if both do. -/
def onGrid? (tie : Tie) (x : Real64) (count : Nat) : Option Decimal :=
  let p := point x.size Real64.unit - count
  let (q, r, d) := atScale x.size Real64.unit p
  let below : Decimal := ⟨q, p⟩
  let above : Decimal := ⟨q + 1, p⟩
  let back (c : Decimal) : Bool := (c.toReal x.negative).word == x.word
  match back below, back above with
  | true, true =>
    let up := if 2 * r = d then tie.goesUp q else decide (d < 2 * r)
    some (if up then above else below)
  | true, false => some below
  | false, true => some above
  | false, false => none

/-- The shortest decimal that rounds back to a finite number; 17 digits always suffice. -/
def shortest (tie : Tie) (x : Real64) : Decimal :=
  ((List.range 17).findSome? fun i => onGrid? tie x (i + 1)).getD ⟨x.size, 0⟩

end Decimal

/-- Significant digits without zeros at either end, and the place of the point: the
magnitude is `0.digits * 10 ^ point`. Zero has no digits. -/
structure Numeral where
  negative : Bool
  digits : List Char
  point : Int

namespace Numeral

def trimZeros (digits : List Char) : List Char :=
  (digits.reverse.dropWhile (· == '0')).reverse

def ofDecimal (negative : Bool) (d : Decimal) : Numeral :=
  if d.digits = 0 then ⟨negative, [], 1⟩
  else
    let digits := Nat.toDigits 10 d.digits
    ⟨negative, trimZeros digits, d.exponent + digits.length⟩

def sign (n : Numeral) : List Char := if n.negative then ['-'] else []

def whole (n : Numeral) : List Char :=
  if n.point ≤ 0 then ['0']
  else
    let places := n.point.toNat
    let whole := n.digits.take places ++ List.replicate (places - n.digits.length) '0'
    if n.digits.isEmpty then ['0'] else whole

def fraction (n : Numeral) : List Char :=
  if n.point ≤ 0 then
    if n.digits.isEmpty then [] else List.replicate n.point.natAbs '0' ++ n.digits
  else n.digits.drop n.point.toNat

def positional (pointed : Bool) (n : Numeral) : String :=
  let fraction := if n.fraction.isEmpty && pointed then ['0'] else n.fraction
  String.ofList (n.sign ++ n.whole ++ (if fraction.isEmpty then [] else '.' :: fraction))

def power (n : Numeral) : Int := n.point - 1

/-- One digit before the point, then the rest. A digit alone is followed by a point and a
zero only when `pointed`. -/
def leading (pointed : Bool) (n : Numeral) : String :=
  let (first, rest) := (n.digits.take 1, n.digits.drop 1)
  let rest := if rest.isEmpty && pointed then ['0'] else rest
  String.ofList (n.sign ++ first ++ (if rest.isEmpty then [] else '.' :: rest))

end Numeral

structure NumberFormat where
  least : Int
  greatest : Int
  pointed : Bool
  power : Int → String

def signedPower (width : Nat) (p : Int) : String :=
  let digits := Nat.toDigits 10 p.natAbs
  String.ofList ((if p < 0 then '-' else '+')
    :: List.replicate (width - digits.length) '0' ++ digits)

def Numeral.format (f : NumberFormat) (n : Numeral) : String :=
  if n.digits.isEmpty ∨ (f.least ≤ n.power ∧ n.power ≤ f.greatest) then n.positional true
  else n.leading f.pointed ++ "e" ++ f.power n.power

namespace Real64

def numeral (tie : Tie) (x : Real64) : Numeral :=
  Numeral.ofDecimal x.negative (Decimal.shortest tie x)

/-- The shortest text, never with an exponent: `1`, `1.5`, `-0`. -/
def plainText (x : Real64) : String := (x.numeral .upper).positional false

end Real64

end RecordStore
