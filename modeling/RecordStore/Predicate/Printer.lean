import RecordStore.Number.Decimal
import RecordStore.Predicate
import RecordStore.Text.Quoted

/-!
The diagnostic text of predicates, one constructor name around each part.
-/
namespace RecordStore

def CompareOp.constructorName : CompareOp → String
  | .eq => "Eq"
  | .ne => "Ne"
  | .lt => "Lt"
  | .gt => "Gt"

/-- Numbers in diagnostics have an exponent from 10^16 up and below 10^-4: `1e16`. -/
def Literal.realFormat : NumberFormat := ⟨-4, 15, false, toString⟩

def Literal.realText (x : Real64) : String :=
  if x.isNaN then "NaN"
  else if x.isInfinite then (if x.negative then "-inf" else "inf")
  else (x.numeral .upper).format realFormat

def Literal.debugText : Literal → String
  | .null => "Null"
  | .integer i => s!"Integer({i.toInt})"
  | .real x => s!"Real({realText x})"
  | .text s => s!"Text({quoted s})"
  | .date d => s!"Date({d.text})"
  | .boolean b => s!"Bool({b})"

def Comparison.debugText (c : Comparison) : String :=
  "Comparison \x7b column: " ++ quoted c.column ++ ", op: " ++ c.op.constructorName
    ++ ", value: " ++ c.value.debugText ++ " \x7d"

namespace Predicate

def nodeText : Predicate → String
  | .compare c => s!"Compare({c.debugText})"
  | .and l r => s!"And({l.nodeText}, {r.nodeText})"
  | .or l r => s!"Or({l.nodeText}, {r.nodeText})"

def debugText (p : Predicate) : String := s!"Predicate({p.nodeText})"

def fieldText (name : String) : String := s!"Field({quoted name})"

end Predicate

end RecordStore
