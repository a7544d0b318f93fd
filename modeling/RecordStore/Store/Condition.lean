import RecordStore.Sql.Command
import RecordStore.Store.Table

/-!
Conditions on rows in three truth values. Only a row whose condition is true is selected.
-/
namespace RecordStore

abbrev Truth := Option Bool

namespace Truth

def and : Truth → Truth → Truth
  | some false, _ | _, some false => some false
  | some true, some true => some true
  | _, _ => none

def or : Truth → Truth → Truth
  | some true, _ | _, some true => some true
  | some false, some false => some false
  | _, _ => none

end Truth

namespace Sql

def Operand.value (parameters : List Value) : Operand → Value
  | .parameter place => (parameters[place]?).getD .null
  | .text content => .text content

namespace Test

def compareTruth (t : TableLayout) (r : Row) (c : ColumnName) (op : CompareOp) (v : Value) :
    Truth :=
  match t.place? c.name with
  | none => none
  | some place =>
    ((r.valueAt place).storedOrder? ((t.affinityAt place).operand v)).map op.accepts

def isNullIn (t : TableLayout) (r : Row) (c : ColumnName) : Bool :=
  match t.place? c.name with
  | none => true
  | some place => r.valueAt place == .null

def truth (t : TableLayout) (parameters : List Value) (r : Row) : Test → Truth
  | .compare c op v => compareTruth t r c op (v.value parameters)
  | .isNull c => some (isNullIn t r c)
  | .isNotNull c => some (!isNullIn t r c)

/-- Whether the test is true, neither false nor unknown. -/
def holds (t : TableLayout) (parameters : List Value) (r : Row) (q : Test) : Bool :=
  q.truth t parameters r == some true

end Test

namespace Condition

def unknownColumn? (t : TableLayout) : Condition → Option ColumnName
  | .test q => if (t.place? q.column.name).isSome then none else some q.column
  | .and l r | .or l r => (l.unknownColumn? t).or (r.unknownColumn? t)

/-- Whether the condition asks for one key, so that it holds of one row at most. -/
def asksForKey (t : TableLayout) : Condition → Bool
  | .test (.compare c .eq _) => t.place? c.name == some .key
  | .and l r => l.asksForKey t || r.asksForKey t
  | _ => false

def truth (t : TableLayout) (parameters : List Value) (r : Row) : Condition → Truth
  | .test q => q.truth t parameters r
  | .and a b => (a.truth t parameters r).and (b.truth t parameters r)
  | .or a b => (a.truth t parameters r).or (b.truth t parameters r)

def holds (t : TableLayout) (parameters : List Value) (r : Row) (c : Condition) : Bool :=
  c.truth t parameters r == some true

end Condition

end Sql

end RecordStore
