import RecordStore.Predicate

/-!
Predicates evaluated on the values of one record. NULL never satisfies a comparison, and
both sides of AND and OR are looked at, so an error does not depend on the record.
-/
namespace RecordStore

namespace Value

/-- The order of two values of one class. Integers meet reals as reals. -/
def order? : Value → Value → Option Ordering
  | .integer a, .integer b => some (compare a.toInt b.toInt)
  | .integer a, .real b => (Real64.ofInt a.toInt).compare? b
  | .real a, .integer b => a.compare? (Real64.ofInt b.toInt)
  | .real a, .real b => a.compare? b
  | .text a, .text b => some (compareText a b)
  | .blob a, .blob b => some (compareBytes a b)
  | _, _ => none

/-- Values without an order satisfy no operator, not even inequality. -/
def satisfies (op : CompareOp) (a b : Value) : Bool :=
  match a.order? b with
  | none => false
  | some o => op.accepts o

end Value

def valueIn (columns : List Column) (values : List Value) (name : String) : Value :=
  match Schema.position? columns name with
  | none => .null
  | some i => (values[i]?).getD .null

def Comparison.holds (columns : List Column) (values : List Value) (c : Comparison) :
    Except PredicateError Bool := do
  let _ ← c.check columns
  let value := valueIn columns values c.column
  if c.value.isNull then return (value == .null) == (c.op == .eq)
  return value.satisfies c.op c.value.toValue

def Predicate.holds (columns : List Column) (values : List Value) :
    Predicate → Except PredicateError Bool
  | .compare c => c.holds columns values
  | .and l r => do
    let a ← l.holds columns values
    let b ← r.holds columns values
    return a && b
  | .or l r => do
    let a ← l.holds columns values
    let b ← r.holds columns values
    return a || b

end RecordStore
