import RecordStore.Schema

/-!
Predicates over the columns of a record: comparisons joined by AND and OR.
-/
namespace RecordStore

structure Comparison where
  column : String
  op : CompareOp
  value : Literal
deriving DecidableEq

inductive Predicate
  | compare (c : Comparison)
  | and (left right : Predicate)
  | or (left right : Predicate)
deriving DecidableEq

inductive PredicateError
  | unknownColumn (column : String)
  | unsupported (what : String)
deriving DecidableEq

namespace PredicateError

def typeMismatch : PredicateError := .unsupported "literal type does not match column"

def orderAgainstNull : PredicateError := .unsupported "ordering comparison against NULL"

def nonFiniteReal : PredicateError := .unsupported "non-finite real literal"

def message : PredicateError → String
  | .unknownColumn column => s!"predicate references undeclared column `{column}`"
  | .unsupported what => s!"unsupported predicate node: {what}"

end PredicateError

namespace Comparison

/-- The declared column of a comparison, if its literal and operator are allowed there.
An unknown column comes before a literal of the wrong kind, and that before NULL. -/
def check (columns : List Column) (c : Comparison) : Except PredicateError Column := do
  let some column := Schema.column? columns c.column | throw (.unknownColumn c.column)
  if !c.value.fits column.kind then throw .typeMismatch
  if c.value.isNull && c.op.isOrdering then throw .orderAgainstNull
  return column

def same (a b : Comparison) : Bool :=
  a.column == b.column && a.op == b.op && a.value.same b.value

end Comparison

namespace Predicate

def compareWith (column : String) (op : CompareOp) (value : Literal) : Predicate :=
  .compare ⟨column, op, value⟩

def isNull (column : String) : Predicate := compareWith column .eq .null

def isNotNull (column : String) : Predicate := compareWith column .ne .null

def joinLeft (join : Predicate → Predicate → Predicate) (first : Predicate)
    (rest : List Predicate) : Predicate :=
  rest.foldl join first

def joinRight (join : Predicate → Predicate → Predicate) :
    Predicate → List Predicate → Predicate
  | first, [] => first
  | first, next :: rest => join first (joinRight join next rest)

def isOr : Predicate → Bool
  | .or _ _ => true
  | _ => false

def comparisons : Predicate → List Comparison
  | .compare c => [c]
  | .and l r | .or l r => l.comparisons ++ r.comparisons

def same : Predicate → Predicate → Bool
  | .compare a, .compare b => a.same b
  | .and l r, .and l' r' => l.same l' && r.same r'
  | .or l r, .or l' r' => l.same l' && r.same r'
  | _, _ => false

end Predicate

end RecordStore
