import RecordStore.Store.Way

/-!
Access to the rows of a table: which of them a condition is tried on, and in what order.
-/
namespace RecordStore

open Sql

inductive Access
  | nothing
  | scan
  | keys (values : List Operand)
  /-- The rows of a first access for which the clause is true, then those of the rest that
  have not been visited. -/
  | orElse (clause : Clause) (first rest : Access)

namespace Scope

/-- The access to the rows of a clause. Each split takes one OR away. -/
def accessWithin (s : Scope) : Nat → Clause → Access
  | fuel, c =>
    match s.choice c with
    | .scan => .scan
    | .keys values => .keys values
    | .split alternatives others =>
      match fuel with
      | 0 => .scan
      | fuel + 1 =>
        alternatives.foldr
          (fun a rest => .orElse (a ++ others) (s.accessWithin fuel (a ++ others)) rest)
          .nothing

def keyOperand? (s : Scope) (c : Clause) : Option Operand :=
  (s.keyTerms c).findSome? fun k =>
    match k.demand with
    | .equal v => some v
    | _ => none

/-- The access to the rows of a condition. A key that is asked for is looked up, whatever
else there is. -/
def access (s : Scope) (c : Condition) : Access :=
  match s.keyOperand? c.clause with
  | some v => .keys [v]
  | none => s.accessWithin c.orCount c.clause

end Scope

namespace Table

/-- The rows that have one of the values as their key. Of equal values the last one counts,
and it has to stand for the key: the least key is not found by the real that equals it. -/
def lookUp (t : Table) (values : List Value) : List Row :=
  t.rows.filter fun r =>
    let equal (v : Value) : Bool := v.numeric.storedOrder? (.integer r.key) == some .eq
    (values.reverse.find? equal).any fun v => v.toKey? == some r.key

def visitAfter (first rest : List Row) : List Row :=
  first ++ rest.filter fun r => !first.any (·.key == r.key)

def visited (t : Table) (parameters : List Value) : Access → List Row
  | .nothing => []
  | .scan => t.rows
  | .keys values => t.lookUp (values.map (Operand.value parameters))
  | .orElse c first rest =>
    visitAfter ((t.visited parameters first).filter fun r => c.holds t.layout parameters r)
      (t.visited parameters rest)

/-- The rows for which a filter is true, in the order in which they are visited. -/
def selected (t : Table) (decidesNotNull : Bool) (parameters : List Value)
    (filter : Option Condition) : List Row :=
  match filter with
  | none => t.rows
  | some c =>
    (t.visited parameters (Scope.access ⟨t.layout, decidesNotNull⟩ c)).filter fun r =>
      c.holds t.layout parameters r

end Table

end RecordStore
