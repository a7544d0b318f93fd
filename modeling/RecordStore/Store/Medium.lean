import RecordStore.Store.Failure
import RecordStore.Store.Table

/-!
The medium below a database. It may refuse the tables that are to be written, because they take
more pages than there may be or because the device fails.
-/
namespace RecordStore

-- Sums of numbers are those of the core library, whatever algebra is imported beside it.
attribute [local instance (high)] Zero.ofOfNat0

/-! ## Pages -/

/-- The bytes of a number that is written in groups of seven bits. -/
def groupBytes (n : Nat) : Nat := min 9 (n.log2 / 7 + 1)

/-- The bytes of a stored integer; 0 and 1 take none. -/
def integerBytes (i : Int) : Nat :=
  let size := if i < 0 then (-i - 1).toNat else i.toNat
  if i = 0 ∨ i = 1 then 0
  else if size < 2 ^ 7 then 1
  else if size < 2 ^ 15 then 2
  else if size < 2 ^ 23 then 3
  else if size < 2 ^ 31 then 4
  else if size < 2 ^ 47 then 6
  else 8

namespace Value

/-- A real that is an integer is stored as one. -/
def storedBytes : Value → Nat
  | .null => 0
  | .integer i => integerBytes i.toInt
  | .real x => ((toKey? (.real x)).map fun i => integerBytes i.toInt).getD 8
  | .text s => s.utf8ByteSize
  | .blob bytes => bytes.length

/-- The bytes that tell the class and the length of a stored value. -/
def headerBytes : Value → Nat
  | .null | .integer _ | .real _ => 1
  | .text s => groupBytes (13 + 2 * s.utf8ByteSize)
  | .blob bytes => groupBytes (12 + 2 * bytes.length)

end Value

def pageBytes : Nat := 4096

/-- The most that a row takes of its page; what is longer goes on in pages of its own. -/
def maxLocalBytes : Nat := 4061

def minLocalBytes : Nat := 489

/-- The bytes in a page of its own, behind the number of the next one. -/
def overflowBytes : Nat := 4092

namespace Row

/-- The key stands in front, so that its place among the values is empty. -/
def payloadBytes (r : Row) : Nat :=
  let header := 1 + (r.cells.map Value.headerBytes).sum
  header + groupBytes (header + 1) + (r.cells.map Value.storedBytes).sum

def localBytes (r : Row) : Nat :=
  if r.payloadBytes ≤ maxLocalBytes then r.payloadBytes
  else
    let least := minLocalBytes + (r.payloadBytes - minLocalBytes) % overflowBytes
    if least ≤ maxLocalBytes then least else minLocalBytes

def overflowPages (r : Row) : Nat :=
  (r.payloadBytes - r.localBytes + (overflowBytes - 1)) / overflowBytes

/-- What a row takes of its page, with the two bytes that tell where it stands there. -/
def bytesInPage (r : Row) : Nat :=
  let key := if r.key < 0 then 9 else groupBytes r.key.toNatClampNeg
  2 + groupBytes r.payloadBytes + key + r.localBytes + if r.overflowPages = 0 then 0 else 4

end Row

namespace Table

/-- The pages that are filled with rows one after the other, and what is free in the last one. -/
def fill (pages free : Nat) : List Row → Nat
  | [] => pages
  | r :: rest =>
    if r.bytesInPage ≤ free then fill pages (free - r.bytesInPage) rest
    else fill (pages + 1) (pageBytes - 8 - r.bytesInPage) rest

/-- The pages of a table, as long as one page above them is enough. -/
def pages (t : Table) : Nat :=
  let leaves := fill 1 (pageBytes - 8) t.rows
  leaves + (if leaves = 1 then 0 else 1) + (t.rows.map Row.overflowPages).sum

end Table

/-- The first page tells where the tables are. -/
def Tables.pages (ts : Tables) : Nat := 1 + (List.map Table.pages ts).sum

/-! ## Answers -/

/-- What stands below a connection: the pages that its database may have at most, and what the
device answers to tables that are to be written, or kept, in place of those committed. -/
structure Medium where
  pageLimit : Option Nat
  writing : Tables → Tables → Option MediumError
  keeping : Tables → Tables → Option MediumError

namespace Medium

def reliable : Medium := ⟨none, fun _ _ => none, fun _ _ => none⟩

/-- Pages that are there already are never too many. -/
def isFull (m : Medium) (committed tables : Tables) : Bool :=
  m.pageLimit.any fun limit => decide (max limit committed.pages < tables.pages)

def onWrite (m : Medium) (committed tables : Tables) : Option MediumError :=
  if m.isFull committed tables then some .full else m.writing committed tables

def onCommit (m : Medium) (committed tables : Tables) : Option MediumError :=
  m.keeping committed tables

def greatestLimit : Nat := 4294967294

/-- A new limit, though not below the pages that there are. Zero sets none, and neither does a
number beyond 64 bits. -/
def limited (m : Medium) (present limit : Nat) : Medium :=
  if limit = 0 ∨ 2 ^ 63 ≤ limit then m
  else { m with pageLimit := some (max present (min limit greatestLimit)) }

def maxPages (m : Medium) : Nat := m.pageLimit.getD greatestLimit

end Medium

end RecordStore
