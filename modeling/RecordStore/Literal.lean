import RecordStore.Calendar
import RecordStore.Value

/-!
Column kinds and the typed constants that predicates compare columns with.
-/
namespace RecordStore

inductive ColumnKind
  | integer
  | real
  | text
  | date
  | boolean
deriving DecidableEq

def ColumnKind.name : ColumnKind → String
  | .integer => "integer"
  | .real => "real"
  | .text => "text"
  | .date => "date"
  | .boolean => "boolean"

def ColumnKind.all : List ColumnKind := [.integer, .real, .text, .date, .boolean]

inductive Literal
  | null
  | integer (i : Int64)
  | real (x : Real64)
  | text (s : String)
  | date (d : Date)
  | boolean (b : Bool)
deriving DecidableEq

namespace Literal

def isNull : Literal → Bool
  | .null => true
  | _ => false

/-- The stored form: a date is its text, a boolean is 0 or 1. -/
def toValue : Literal → Value
  | .null => .null
  | .integer i => .integer i
  | .real x => .real x
  | .text s => .text s
  | .date d => .text d.text
  | .boolean b => .integer (if b then 1 else 0)

def fits : Literal → ColumnKind → Bool
  | .null, _ => true
  | .integer _, .integer | .integer _, .real => true
  | .real _, .integer | .real _, .real => true
  | .text _, .text => true
  | .date _, .date => true
  | .boolean _, .boolean => true
  | _, _ => false

def isFinite : Literal → Bool
  | .real x => x.isFinite
  | _ => true

/-- Equality of constants. Reals are equal as numbers, so NaN differs from itself. -/
def same : Literal → Literal → Bool
  | .real x, .real y => x.sameNumber y
  | a, b => decide (a = b)

end Literal

end RecordStore
