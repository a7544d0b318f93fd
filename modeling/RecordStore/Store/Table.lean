import RecordStore.Schema
import RecordStore.Store.Affinity

/-!
Tables: a layout and rows under distinct 64-bit keys, in ascending order. They are plain: no
trigger, generated column, further UNIQUE or conflict clause stands in their layout, and what
refers to a row is only counted, without any action on it.
-/
namespace RecordStore

structure CellLayout where
  name : String
  affinity : Affinity
  required : Bool
  references : Option String
deriving DecidableEq

structure TableLayout where
  name : String
  key : String
  cells : List CellLayout
deriving DecidableEq

inductive ColumnPlace
  | key
  | cell (index : Nat)
deriving DecidableEq

namespace TableLayout

def place? (t : TableLayout) (name : String) : Option ColumnPlace :=
  if Schema.sameName t.key name then some .key
  else (t.cells.findIdx? fun c => Schema.sameName c.name name).map .cell

def affinityAt (t : TableLayout) : ColumnPlace → Affinity
  | .key => .integer
  | .cell i => ((t.cells[i]?).map CellLayout.affinity).getD .text

def nameAt (t : TableLayout) : ColumnPlace → String
  | .key => t.key
  | .cell i => ((t.cells[i]?).map CellLayout.name).getD ""

def columnNames (t : TableLayout) : List String := t.key :: t.cells.map CellLayout.name

end TableLayout

structure Row where
  key : Int64
  cells : List Value
deriving DecidableEq

namespace Row

def valueAt (r : Row) : ColumnPlace → Value
  | .key => .integer r.key
  | .cell i => (r.cells[i]?).getD .null

def values (r : Row) : List Value := .integer r.key :: r.cells

end Row

structure Table where
  layout : TableLayout
  rows : List Row
deriving DecidableEq

namespace Table

def hasKey (t : Table) (key : Int64) : Bool := t.rows.any (·.key == key)

def erase (t : Table) (key : Int64) : Table :=
  { t with rows := t.rows.filter (·.key != key) }

def insertSorted (r : Row) : List Row → List Row
  | [] => [r]
  | s :: rest => if r.key < s.key then r :: s :: rest else s :: insertSorted r rest

def insert (t : Table) (r : Row) : Table := { t with rows := insertSorted r t.rows }

/-- The key of a row that brings none: one more than the greatest, or any free one when
that is taken. -/
def freshKey (t : Table) : Int64 :=
  match t.rows.getLast? with
  | none => 1
  | some last =>
    if last.key < Int64.maxValue then last.key + 1
    else (((List.range (t.rows.length + 1)).map fun n => Int64.ofNat (n + 1)).find?
      fun k => !t.hasKey k).getD last.key

end Table

abbrev Tables := List Table

namespace Tables

def table? (ts : Tables) (name : String) : Option Table :=
  ts.find? fun t => Schema.sameName t.layout.name name

def put (ts : Tables) (t : Table) : Tables :=
  ts.map fun u => if u.layout.name = t.layout.name then t else u

def hasKey (ts : Tables) (name : String) (key : Int64) : Bool :=
  match table? ts name with
  | none => false
  | some t => t.hasKey key

end Tables

def entriesLayout : TableLayout :=
  ⟨"ENTRIES", "ID", [⟨"DESCRIPTION", .text, false, none⟩, ⟨"DATE", .text, true, none⟩]⟩

def linksLayout : TableLayout :=
  ⟨"LINKS", "ID", [⟨"ENTRY_ID", .integer, true, some "ENTRIES"⟩]⟩

def itemsLayout : TableLayout :=
  ⟨"ITEMS", "ID", [⟨"UNITPRICE", .real, false, none⟩, ⟨"LABEL", .text, false, none⟩,
    ⟨"DAY", .text, false, none⟩, ⟨"IS_ACTIVE", .integer, true, none⟩]⟩

def emptyTables : Tables := [⟨entriesLayout, []⟩, ⟨linksLayout, []⟩, ⟨itemsLayout, []⟩]

end RecordStore
