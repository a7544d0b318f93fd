import RecordStore.Store.Access

/-!
Changes of rows. A statement works on the tables and on the balance of open references: it
rises with every reference that loses its target and falls when one is mended.
-/
namespace RecordStore

-- Sums of numbers are those of the core library, whatever algebra is imported beside it.
attribute [local instance (high)] Zero.ofOfNat0

open Sql

structure Work where
  tables : Tables
  openReferences : Int

namespace Work

def isDangling (tables : Tables) (cell : CellLayout) (v : Value) : Bool :=
  match cell.references with
  | none => false
  | some parent =>
    v != .null &&
      match v.toKey? with
      | none => true
      | some key => !tables.hasKey parent key

def danglingCells (tables : Tables) (counts : CellLayout → Bool) (t : TableLayout) (r : Row) :
    Nat :=
  (t.cells.zip r.cells).countP fun (cell, v) => counts cell && isDangling tables cell v

def referrers (tables : Tables) (parent : String) (key : Int64) : Nat :=
  (tables.map fun t =>
    (t.rows.map fun r =>
      (t.layout.cells.zip r.cells).countP fun (cell, v) =>
        (cell.references.any fun p => Schema.sameName p parent) &&
          v.storedOrder? (.integer key) == some .eq).sum).sum

/-- Lowers the balance, unless nothing is open. -/
def mend (openReferences : Int) (count : Nat) : Int :=
  if openReferences = 0 then 0 else openReferences - count

/-- The balance after a row has left: its own dangling references are gone, and those to
its key are open. -/
def balanceWithout (w : Work) (counts : CellLayout → Bool) (keyCounts : Bool) (t : Table)
    (r : Row) : Int :=
  let own := mend w.openReferences (danglingCells w.tables counts t.layout r)
  if keyCounts then own + referrers w.tables t.layout.name r.key else own

/-- The balance after a row has come: its dangling references are open, and those to its
key are mended. -/
def balanceWith (w : Work) (counts : CellLayout → Bool) (keyCounts : Bool) (t : Table)
    (r : Row) : Int :=
  let own := w.openReferences + danglingCells w.tables counts t.layout r
  if keyCounts then mend own (referrers w.tables t.layout.name r.key) else own

def balanceIf (enforced : Bool) (w : Work) (balance : Int) : Int :=
  if enforced then balance else w.openReferences

def missingCell? (t : TableLayout) (r : Row) : Option CellLayout :=
  ((t.cells.zip r.cells).find? fun (cell, v) => cell.required && v == .null).map Prod.fst

def checkRow (t : Table) (r : Row) : Except Failure Unit := do
  if let some cell := missingCell? t.layout r then
    throw (.missingValue t.layout.name cell.name)
  if t.hasKey r.key then throw (.duplicateKey t.layout.name t.layout.key)

def insertRow (enforced : Bool) (w : Work) (t : Table) (r : Row) : Except Failure Work := do
  checkRow t r
  let balance := balanceIf enforced w (w.balanceWith (fun _ => true) true t r)
  return ⟨w.tables.put (t.insert r), balance⟩

def deleteRow (enforced : Bool) (w : Work) (t : Table) (r : Row) : Work :=
  let balance := balanceIf enforced w (w.balanceWithout (fun _ => true) true t r)
  ⟨w.tables.put (t.erase r.key), balance⟩

/-- Replaces a row; the references in columns that are not assigned are left alone. -/
def replaceRow (enforced : Bool) (assigned : ColumnPlace → Bool) (w : Work) (t : Table)
    (old new : Row) : Except Failure Work := do
  let without := t.erase old.key
  checkRow without new
  let counts (cell : CellLayout) : Bool :=
    ((t.layout.place? cell.name).map assigned).getD false
  let balance := balanceIf enforced w (w.balanceWithout counts (assigned .key) t old)
  let w := ⟨w.tables.put without, balance⟩
  let balance := balanceIf enforced w (w.balanceWith counts (assigned .key) without new)
  return ⟨w.tables.put (without.insert new), balance⟩

end Work

/-- The value that an assignment list gives to a place; of two the last counts. -/
def assignedValue? (t : TableLayout) (assignments : List (ColumnName × Value))
    (place : ColumnPlace) : Option Value :=
  (assignments.reverse.find? fun (c, _) => t.place? c.name = some place).map Prod.snd

def assignedCells (t : TableLayout) (assignments : List (ColumnName × Value))
    (default : Nat → Value) : List Value :=
  t.cells.mapIdx fun i cell =>
    match assignedValue? t assignments (.cell i) with
    | some v => cell.affinity.store v
    | none => default i

namespace Work

/-- Adds a row. A NULL key is replaced by a fresh one, and a key must be an integer. -/
def runInsert (enforced : Bool) (w : Work) (t : Table)
    (assignments : List (ColumnName × Value)) : Except Failure Work := do
  let cells := assignedCells t.layout assignments fun _ => .null
  match (assignedValue? t.layout assignments .key).getD .null with
  | .null => insertRow enforced w t ⟨t.freshKey, cells⟩
  | v =>
    let some key := v.toKey? | throw .keyMismatch
    insertRow enforced w t ⟨key, cells⟩

def updatedRow (t : TableLayout) (assignments : List (ColumnName × Value)) (r : Row) :
    Except Failure Row := do
  let cells := assignedCells t assignments fun i => r.valueAt (.cell i)
  match assignedValue? t assignments .key with
  | none => return ⟨r.key, cells⟩
  | some v =>
    let some key := v.toKey? | throw .keyMismatch
    return ⟨key, cells⟩

def runUpdate (enforced : Bool) (name : String) (assignments : List (ColumnName × Value)) :
    Work → List Row → Except Failure Work
  | w, [] => .ok w
  | w, r :: rest =>
    match w.tables.table? name with
    | none => .error (.noSuchTable name)
    | some t => do
      let assigned (place : ColumnPlace) : Bool :=
        (assignedValue? t.layout assignments place).isSome
      let new ← updatedRow t.layout assignments r
      let w ← replaceRow enforced assigned w t r new
      runUpdate enforced name assignments w rest

def isReferred (tables : Tables) (parent : String) : Bool :=
  tables.any fun t => t.layout.cells.any fun cell =>
    cell.references.any fun p => Schema.sameName p parent

/-- Whether an update keeps a journal of its own: it may fail after it has changed something,
namely other rows or references. -/
def isJournaled (enforced : Bool) (tables : Tables) (t : TableLayout)
    (assigned : List ColumnName) (filter : Option Condition) : Bool :=
  let isAssigned (place : ColumnPlace) : Bool :=
    assigned.any fun c => t.place? c.name == some place
  let assignsCell (counts : CellLayout → Bool) : Bool :=
    t.cells.any fun cell => counts cell && ((t.place? cell.name).map isAssigned).getD false
  let mayFail := isAssigned .key || assignsCell CellLayout.required
  let touchesReferences := assignsCell (·.references.isSome)
    || (isAssigned .key && isReferred tables t.name)
  mayFail && (!(filter.any (·.asksForKey t)) || (enforced && touchesReferences))

def runDelete (enforced : Bool) (name : String) : Work → List Row → Work
  | w, [] => w
  | w, r :: rest =>
    match w.tables.table? name with
    | none => w
    | some t => runDelete enforced name (deleteRow enforced w t r) rest

end Work

end RecordStore
