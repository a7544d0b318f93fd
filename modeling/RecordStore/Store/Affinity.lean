import RecordStore.Number.NumericText
import RecordStore.Value

/-!
Conversions of stored values. A column's affinity turns values into its own class on the
way in, and turns the other operand of a comparison where that makes them comparable.
-/
namespace RecordStore

def int64? (i : Int) : Option Int64 :=
  if Int64.minValue.toInt ≤ i ∧ i ≤ Int64.maxValue.toInt then some (Int64.ofInt i) else none

namespace Value

def ofNumericText? (s : String) : Option Value :=
  (NumericText.read? s).map fun n =>
    match if n.isWhole then int64? n.toInt else none with
    | some i => .integer i
    | none => .real n.toReal

def numeric : Value → Value
  | .text s => (ofNumericText? s).getD (.text s)
  | v => v

/-- A real that is an integer above the least 64-bit one becomes it. -/
def integral : Value → Value
  | .real x =>
    match x.toInt?.bind int64? with
    | some i => if i = Int64.minValue then .real x else .integer i
    | none => .real x
  | v => v

def realForm : Value → Value
  | .integer i => .real (Real64.ofInt i.toInt)
  | .real x => .real (if x.size = 0 then Real64.zero else x)
  | v => v

def textForm : Value → Value
  | .integer i => .text (toString i.toInt)
  | .real x => .text x.columnText
  | v => v

def toKey? (v : Value) : Option Int64 :=
  match v.numeric.integral with
  | .integer i => some i
  | _ => none

/-- A parameter as the engine receives it: NaN is NULL. -/
def received : Value → Value
  | .real x => if x.isNaN then .null else .real x
  | v => v

/-- The order of stored values: numbers by exact value, then text, then bytes. NULL has no
place in it. -/
def storedOrder? : Value → Value → Option Ordering
  | .null, _ | _, .null => none
  | .integer a, .integer b => some (compare a.toInt b.toInt)
  | .integer a, .real b => Real64.compareInt? a.toInt b
  | .real a, .integer b => (Real64.compareInt? b.toInt a).map Ordering.swap
  | .real a, .real b => a.compare? b
  | .text a, .text b => some (compareText a b)
  | .blob a, .blob b => some (compareBytes a b)
  | .integer _, _ | .real _, _ | .text _, .blob _ => some .lt
  | _, _ => some .gt

end Value

inductive Affinity
  | integer
  | real
  | text
deriving DecidableEq

namespace Affinity

/-- The value as a column keeps it. Bytes and NULL are never converted. -/
def store : Affinity → Value → Value
  | .integer, v => v.numeric.integral
  | .real, v => v.numeric.realForm
  | .text, v => v.textForm

def operand : Affinity → Value → Value
  | .integer, v | .real, v => v.numeric
  | .text, v => v.textForm

end Affinity

end RecordStore
