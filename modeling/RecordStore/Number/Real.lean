/-!
Binary64 numbers as 64-bit words. Every finite word is a whole number of units of 2^-1074,
so comparison is comparison of integers and rounding is one division.
-/
namespace RecordStore

-- Powers of numbers are those of the core library, whatever algebra is imported beside it.
attribute [local instance (high)] instPowNat instNatPowNat
attribute [default_instance 20000] instPowNat

structure Real64 where
  bits : UInt64
deriving DecidableEq

namespace Real64

def word (x : Real64) : Nat := x.bits.toNat

def negative (x : Real64) : Bool := decide (2 ^ 63 ≤ x.word)

def magnitude (x : Real64) : Nat := x.word % 2 ^ 63

def infiniteWord : Nat := 2047 * 2 ^ 52

def isNaN (x : Real64) : Bool := decide (infiniteWord < x.magnitude)

def isInfinite (x : Real64) : Bool := decide (x.magnitude = infiniteWord)

def isFinite (x : Real64) : Bool := decide (x.magnitude < infiniteWord)

/-- Units of 2^-1074 denoted by a word without sign. The exponent field scales the
mantissa; fields 0 and 1 share one scale, and only field 0 has no leading one. -/
def unitsOfWord (w : Nat) : Nat :=
  let field := w / 2 ^ 52
  let fraction := w % 2 ^ 52
  (if field = 0 then fraction else 2 ^ 52 + fraction) * 2 ^ (field - 1)

/-- The absolute value in units of 2^-1074. An infinity counts as 2^1024. -/
def size (x : Real64) : Nat := unitsOfWord x.magnitude

def units (x : Real64) : Int := if x.negative then -(x.size : Int) else x.size

def unit : Nat := 2 ^ 1074

/-- The quotient rounded to the nearest integer, a tie to the even one. -/
def divideToEven (n d : Nat) : Nat :=
  let q := n / d
  let r := n % d
  if 2 * r < d then q else if 2 * r = d ∧ q % 2 = 0 then q else q + 1

/-- The word nearest to `n / d` units. The step between neighbours doubles with every
bit beyond the 53rd; a carry out of the mantissa runs into the exponent field. -/
def wordOfUnits (n d : Nat) : Nat :=
  let scale := (n / d).log2 - 52
  min infiniteWord (scale * 2 ^ 52 + divideToEven n (d * 2 ^ scale))

def ofWord (negative : Bool) (w : Nat) : Real64 :=
  ⟨UInt64.ofNat (if negative then 2 ^ 63 + w else w)⟩

def ofRatio (negative : Bool) (n d : Nat) : Real64 :=
  ofWord negative (wordOfUnits (n * unit) d)

def ofInt (i : Int) : Real64 := ofRatio (decide (i < 0)) i.natAbs 1

def zero : Real64 := ⟨0⟩

def compare? (x y : Real64) : Option Ordering :=
  if x.isNaN || y.isNaN then none else some (compare x.units y.units)

/-- Numeric equality: the zeros are equal and NaN equals nothing. -/
def sameNumber (x y : Real64) : Bool := x.compare? y == some .eq

def compareInt? (i : Int) (x : Real64) : Option Ordering :=
  if x.isNaN then none else some (compare (i * unit) x.units)

def toInt? (x : Real64) : Option Int :=
  if x.isFinite ∧ x.units % (unit : Int) = 0 then some (x.units / (unit : Int)) else none

end Real64

end RecordStore
