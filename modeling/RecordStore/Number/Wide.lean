import RecordStore.Number.Decimal

/-!
Positive numbers of 64 significant bits and any exponent. Decimal numbers are scaled in
them by powers of ten, and every product is rounded to nearest, a tie to even. The
conversions between decimal and binary64 that go this way may miss the nearest result by
one unit in the last place.
-/
namespace RecordStore

-- Powers of numbers are those of the core library, whatever algebra is imported beside it.
attribute [local instance (high)] instPowNat instNatPowNat

structure Wide where
  mantissa : Nat
  exponent : Int
deriving DecidableEq

namespace Wide

def topBit : Nat := 63

/-- `n * 2 ^ e`, rounded. -/
def rounded (n : Nat) (e : Int) : Wide :=
  let drop := n.log2 - topBit
  ⟨Real64.divideToEven n (2 ^ drop), e + drop⟩

/-- `n / d`, rounded once. The quotient is formed with more bits than are kept. -/
def ofRatio (n d : Nat) : Wide :=
  let shift := topBit + 2 + d.log2 - n.log2
  let drop := (n * 2 ^ shift / d).log2 - topBit
  ⟨Real64.divideToEven (n * 2 ^ shift) (d * 2 ^ drop), (drop : Int) - shift⟩

def ofNat (n : Nat) : Wide := rounded n 0

def ofReal (x : Real64) : Wide := rounded x.size (-1074)

def mul (a b : Wide) : Wide := rounded (a.mantissa * b.mantissa) (a.exponent + b.exponent)

def lt (a b : Wide) : Bool :=
  let e := min a.exponent b.exponent
  decide (a.mantissa * 2 ^ (a.exponent - e).toNat < b.mantissa * 2 ^ (b.exponent - e).toNat)

def tenPower (k : Int) : Wide :=
  if k < 0 then ofRatio 1 (10 ^ k.natAbs) else ofRatio (10 ^ k.natAbs) 1

def mulTimes (factor : Wide) : Nat → Wide → Wide
  | 0, a => a
  | count + 1, a => mulTimes factor count (a.mul factor)

def raise (count : Nat) (a : Wide) : Wide :=
  mulTimes (tenPower 1) (count % 10)
    (mulTimes (tenPower 10) (count % 100 / 10) (mulTimes (tenPower 100) (count / 100) a))

def lower (count : Nat) (a : Wide) : Wide :=
  mulTimes (tenPower (-1)) (count % 10)
    (mulTimes (tenPower (-10)) (count % 100 / 10)
      (mulTimes (tenPower (-100)) (count / 100) a))

def greatest : Wide := ofReal ⟨UInt64.ofNat (Real64.infiniteWord - 1)⟩

/-- The binary64 number nearest to it; whatever is above the greatest is infinite. -/
def toReal (negative : Bool) (a : Wide) : Real64 :=
  if greatest.lt a then Real64.ofWord negative Real64.infiniteWord
  else if a.exponent < 0 then Real64.ofRatio negative a.mantissa (2 ^ a.exponent.natAbs)
  else Real64.ofRatio negative (a.mantissa * 2 ^ a.exponent.natAbs) 1

def floor (a : Wide) : Nat :=
  if a.exponent < 0 then a.mantissa / 2 ^ a.exponent.natAbs
  else a.mantissa * 2 ^ a.exponent.natAbs

def mulWhile (test : Wide → Bool) (factor : Wide) : Nat → Wide → Wide × Nat
  | 0, a => (a, 0)
  | bound + 1, a =>
    if test a then
      let (a, count) := mulWhile test factor bound (a.mul factor)
      (a, count + 1)
    else (a, 0)

def maxSteps : Nat := 16

/-- Brings a number into the range from 10^17 to 10^19, and tells by which power of ten it
has to be multiplied to be the number again. -/
def intoRange (a : Wide) : Wide × Int :=
  if a.lt (tenPower 19) then
    let (a, hundreds) := mulWhile (·.lt (tenPower (-97))) (tenPower 100) maxSteps a
    let (a, tens) := mulWhile (·.lt (tenPower 7)) (tenPower 10) maxSteps a
    let (a, ones) := mulWhile (·.lt (tenPower 17)) (tenPower 1) maxSteps a
    (a, -(hundreds * 100 + tens * 10 + ones : Nat))
  else
    let (a, hundreds) := mulWhile (!·.lt (tenPower 119)) (tenPower (-100)) maxSteps a
    let (a, tens) := mulWhile (!·.lt (tenPower 29)) (tenPower (-10)) maxSteps a
    let (a, ones) := mulWhile (!·.lt (tenPower 19)) (tenPower (-1)) maxSteps a
    (a, (hundreds * 100 + tens * 10 + ones : Nat))

end Wide

namespace Decimal

def firstDigits (count : Nat) (d : Decimal) : Decimal :=
  let drop := (Nat.toDigits 10 d.digits).length - count
  let (q, r) := (d.digits / 10 ^ drop, d.digits % 10 ^ drop)
  ⟨if 10 ^ drop ≤ 2 * r then q + 1 else q, d.exponent + drop⟩

/-- A finite number that is not zero as a decimal of `count` digits, by way of 18 or 19
digits that are cut off. -/
def ofReal (count : Nat) (x : Real64) : Decimal :=
  let (a, exponent) := (Wide.ofReal x).intoRange
  firstDigits count ⟨a.floor, exponent⟩

end Decimal

namespace Real64

/-- Numbers in a text column have an exponent from 10^15 up and below 10^-4, and always a
point: `1.0e+15`. -/
def columnFormat : NumberFormat := ⟨-4, 14, true, signedPower 2⟩

def columnText (x : Real64) : String :=
  if x.isInfinite then (if x.negative then "-Inf" else "Inf")
  else if x.size = 0 then "0.0"
  else (Numeral.ofDecimal x.negative (Decimal.ofReal 15 x)).format columnFormat

end Real64

end RecordStore
