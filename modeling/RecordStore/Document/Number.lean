import RecordStore.Document
import RecordStore.Number.NumericText

/-!
Numbers in the text of documents. A real is made of at most 64 bits of digits in two
roundings, so it may miss the number nearest to the text by one unit in the last place.
-/
namespace RecordStore

-- Powers of numbers are those of the core library, whatever algebra is imported beside it.
attribute [local instance (high)] instPowNat instNatPowNat Int.instNatPow

namespace Real64

def greatestTenPower : Nat := 308

def tenPower (k : Nat) : Real64 := ofRatio false (10 ^ k) 1

def times (x p : Real64) : Real64 := ofRatio x.negative (x.size * p.size) (unit * unit)

def dividedBy (x p : Real64) : Real64 := ofRatio x.negative x.size p.size

def shiftedDown (x : Real64) (places : Nat) : Real64 :=
  if places ≤ greatestTenPower then x.dividedBy (tenPower places)
  else shiftedDown (x.dividedBy (tenPower greatestTenPower)) (places - greatestTenPower)
termination_by places
decreasing_by simp_all [greatestTenPower]; omega

def shiftedUp? (x : Real64) (places : Nat) : Option Real64 :=
  if x.size = 0 then some x
  else if greatestTenPower < places then none
  else
    let y := x.times (tenPower places)
    if y.isInfinite then none else some y

end Real64

namespace Document

def roomFor (n d : Nat) : Bool := decide (n * 10 + d ≤ NumericText.maxWord)

/-- The real that a text spells: its digits rounded, then scaled and rounded again. -/
def realOfText? (n : NumericText) : Option Real64 :=
  let d := n.toDecimal roomFor
  let x := Real64.ofRatio n.negative d.digits 1
  if d.exponent < 0 then some (x.shiftedDown d.exponent.natAbs)
  else x.shiftedUp? d.exponent.natAbs

/-- Whole numbers of 64 bits stay whole; all others, and minus zero, are reals. Numbers
beyond every real are none. -/
def ofNumber? (n : NumericText) : Option Document :=
  let i := n.toInt
  if n.isWhole ∧ n.negative ∧ i ≠ 0 ∧ -(2 ^ 63) ≤ i then some (.negative (Int64.ofInt i))
  else if n.isWhole ∧ !n.negative ∧ i < 2 ^ 64 then some (.natural (UInt64.ofNat i.toNat))
  else (realOfText? n).map .real

end Document

end RecordStore
