import RecordStore.Store.Condition

/-!
Conditions as conjunctions of terms. A term is a test, or alternatives that are conjunctions
again, so neither an AND stands right below an AND nor an OR right below an OR.
-/
namespace RecordStore

open Sql

inductive Term
  | test (t : Test)
  | any (alternatives : List (List Term))

abbrev Clause := List Term

namespace Sql.Condition

mutual

def clause : Condition → Clause
  | .test t => [.test t]
  | .and a b => a.clause ++ b.clause
  | .or a b => [.any (a.alternatives ++ b.alternatives)]

def alternatives : Condition → List Clause
  | .test t => [[.test t]]
  | .and a b => [a.clause ++ b.clause]
  | .or a b => a.alternatives ++ b.alternatives

end

def orCount : Condition → Nat
  | .test _ => 0
  | .and a b => a.orCount + b.orCount
  | .or a b => a.orCount + b.orCount + 1

end Sql.Condition

mutual

def Term.holds (passes : Test → Bool) : Term → Bool
  | .test t => passes t
  | .any as => Term.someHold passes as

def Term.allHold (passes : Test → Bool) : List Term → Bool
  | [] => true
  | t :: ts => t.holds passes && Term.allHold passes ts

def Term.someHold (passes : Test → Bool) : List (List Term) → Bool
  | [] => false
  | c :: cs => Term.allHold passes c || Term.someHold passes cs

end

def Clause.holds (t : TableLayout) (parameters : List Value) (r : Row) (c : Clause) : Bool :=
  Term.allHold (Test.holds t parameters r) c

end RecordStore
