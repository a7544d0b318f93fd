/-!
Estimates of what it takes to find rows. They are made without looking at the rows, on a
logarithmic scale: ten more is twice as much.
-/
namespace RecordStore

-- Powers of numbers are those of the core library, whatever algebra is imported beside it.
attribute [local instance (high)] instPowNat instNatPowNat

structure Estimate where
  cost : Int
  rows : Int
deriving DecidableEq

namespace Estimate

/-- The differences from which on the lesser of two amounts adds one unit less. -/
def sumSteps : List Int := [2, 4, 6, 9, 12, 15, 19, 25, 32, 50]

def sumOf (a b : Int) : Int :=
  let difference := max a b - min a b
  max a b + Int.ofNat (sumSteps.filter fun step => decide (difference < step)).length

/-- The units of an amount between one power of two and the next, by eighths. -/
def eighths : List Int := [0, 2, 3, 5, 6, 7, 8, 9]

def ofCount (n : Nat) : Int :=
  if n < 2 then 0
  else 10 * Int.ofNat n.log2 + (eighths[n * 8 / 2 ^ n.log2 - 8]?).getD 0

/-- Every table is taken to have 2^20 rows. -/
def tableRows : Int := 200

def readCost (rows : Int) : Int := rows + 16

def seekCost : Int := 43

def scan : Estimate := ⟨readCost tableRows, tableRows⟩

def seek (rows : Int) : Estimate := ⟨sumOf seekCost (readCost rows), rows⟩

def oneKey : Estimate := seek 0

def someKeys (n : Nat) : Estimate :=
  ⟨oneKey.cost + ofCount n, oneKey.rows + ofCount n⟩

/-- The rows on one side of a key, a quarter of the table. -/
def oneSide : Estimate := seek (tableRows - 20)

def between : Estimate := seek (tableRows - 60)

def isBetter (e f : Estimate) : Bool :=
  decide (e.cost < f.cost) || (e.cost == f.cost && decide (e.rows < f.rows))

/-- The least cost of some ways to the same rows. A way that costs no more than those before
it may also lower the number of rows. -/
def cheapest (es : List Estimate) : Option Estimate :=
  es.foldl (fun best e =>
    match best with
    | none => some e
    | some b => if e.cost ≤ b.cost then some ⟨e.cost, min b.rows e.rows⟩ else some b) none

def total : List Estimate → Option Estimate
  | [] => none
  | e :: es => some (es.foldl (fun f g => ⟨sumOf f.cost g.cost, sumOf f.rows g.rows⟩) e)

end Estimate

end RecordStore
