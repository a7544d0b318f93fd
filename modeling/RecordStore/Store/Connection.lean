import RecordStore.Path
import RecordStore.Store.Change
import RecordStore.Store.Medium

/-!
Database files, the connections to them, and the locks that keep writers apart. A writer
works on tables of its own until it commits, and it commits only while nobody reads. A medium
that fails ends the transaction.
-/
namespace RecordStore

-- Sums of numbers are those of the core library, whatever algebra is imported beside it.
attribute [local instance (high)] Zero.ofOfNat0

open Sql

/-- The locks of a connection on its file, each including those before it. -/
inductive Lock
  | none
  | shared
  | reserved
  | pending
  | exclusive
deriving DecidableEq

namespace Lock

def rank : Lock → Nat
  | .none => 0
  | .shared => 1
  | .reserved => 2
  | .pending => 3
  | .exclusive => 4

def atLeast (l m : Lock) : Bool := decide (m.rank ≤ l.rank)

def join (l m : Lock) : Lock := if l.atLeast m then l else m

end Lock

/-- A database file at its names from the root, or a private database without a place, with
its committed tables. -/
structure DatabaseFile where
  place : Option (List String)
  tables : Tables

structure Connection where
  file : Nat
  lock : Lock
  inTransaction : Bool
  work : Option Tables
  openReferences : Int
  enforced : Bool
  changes : Nat
  knowsTables : Bool
  medium : Medium

def Connection.fresh (file : Nat) (enforced : Bool) : Connection :=
  ⟨file, .none, false, none, 0, enforced, 0, false, .reliable⟩

def Connection.released (c : Connection) : Connection :=
  { c with lock := .none, inTransaction := false, work := none, openReferences := 0 }

/-- Takes a lock; outside a transaction it is given back at the end of the statement. -/
def Connection.locked (c : Connection) (l : Lock) : Connection :=
  if c.inTransaction then { c with lock := c.lock.join l } else c

structure Store where
  files : List DatabaseFile
  directories : List (List String)
  connections : List (Nat × Connection)
  nextConnection : Nat

namespace Store

def empty (directories : List (List String)) : Store := ⟨[], directories, [], 0⟩

def addFile (s : Store) (f : DatabaseFile) : Store := { s with files := s.files ++ [f] }

def connection? (s : Store) (id : Nat) : Option Connection := s.connections.lookup id

def putConnection (s : Store) (id : Nat) (c : Connection) : Store :=
  { s with connections := s.connections.map fun (i, d) => if i = id then (i, c) else (i, d) }

def close (s : Store) (id : Nat) : Store :=
  { s with connections := s.connections.filter (·.1 != id) }

def committed (s : Store) (file : Nat) : Tables := ((s.files[file]?).map (·.tables)).getD []

def putTables (s : Store) (file : Nat) (ts : Tables) : Store :=
  { s with files := s.files.modify file fun f => { f with tables := ts } }

def visible (s : Store) (c : Connection) : Tables := c.work.getD (s.committed c.file)

def othersHold (s : Store) (id : Nat) (file : Nat) (l : Lock) : Bool :=
  s.connections.any fun (i, c) => i != id && c.file == file && c.lock.atLeast l

/-- Nobody begins to read while another is about to commit. -/
def mayRead (s : Store) (id : Nat) (c : Connection) : Bool :=
  c.lock.atLeast .shared || !s.othersHold id c.file .pending

/-- There is one writer at a time. -/
def mayWrite (s : Store) (id : Nat) (c : Connection) : Bool :=
  !s.othersHold id c.file .reserved

/-- A writer commits while nobody else reads. -/
def mayCommit (s : Store) (id : Nat) (c : Connection) : Bool :=
  !s.othersHold id c.file .shared

end Store

def placeBytes (place : List String) : Nat := (place.map fun name => name.utf8ByteSize + 1).sum

def maxWayBytes : Nat := 511

/-- The longest place of a file, which leaves room for the names of its companions. -/
def maxFileBytes : Nat := 504

namespace Store

def connect (s : Store) (file : Nat) (enforced : Bool) : Nat × Store :=
  (s.nextConnection,
    { s with
      connections := s.connections ++ [(s.nextConnection, .fresh file enforced)]
      nextConnection := s.nextConnection + 1 })

def openPrivate (s : Store) (tables : Tables) (enforced : Bool) : Nat × Store :=
  (s.addFile ⟨none, tables⟩).connect s.files.length enforced

def fileAt? (s : Store) (place : List String) : Option Nat :=
  s.files.findIdx? (·.place == some place)

def isDirectory (s : Store) (place : List String) : Bool :=
  place.isEmpty || s.directories.contains place

/-- One step along a path. A step up needs nothing to be there, but nothing is below a
file. -/
def enter (s : Store) (place : List String) (segment : String) : Option (List String) :=
  if segment = "." then some place
  else if segment = ".." then some place.dropLast
  else
    let next := place ++ [segment]
    if (s.fileAt? place).isSome then none
    else if s.isDirectory place && decide (maxNameBytes < segment.utf8ByteSize) then none
    else if maxWayBytes < placeBytes next then none
    else some next

def placeOf? (s : Store) (path : String) : Option (List String) :=
  (Path.segments path).foldlM s.enter []

def hasRoomAt (s : Store) (place : List String) : Bool :=
  !s.isDirectory place && s.isDirectory place.dropLast
    && decide (placeBytes place ≤ maxFileBytes)

def bytesBeforeZero (path : String) : Nat :=
  (String.ofList (path.toList.takeWhile (· != '\x00'))).utf8ByteSize

/-- Connects to the file of a path. A missing file is made, a missing directory is not. -/
def openPath (s : Store) (path : String) (enforced : Bool) : Except StoreError (Nat × Store) :=
  if path.toList.contains '\x00' then .error (.zeroByte (bytesBeforeZero path))
  else
    match s.placeOf? path with
    | none => .error (.failed (.cannotOpen path))
    | some place =>
      match s.fileAt? place with
      | some file => .ok (s.connect file enforced)
      | none =>
        if s.hasRoomAt place then
          .ok ((s.addFile ⟨some place, []⟩).connect s.files.length enforced)
        else .error (.failed (.cannotOpen path))

end Store

structure ResultRow where
  columns : List String
  values : List Value

def ResultRow.value (r : ResultRow) (name : String) : Except StoreError (Nat × Value) :=
  match r.columns.findIdx? fun c => Schema.sameName c name with
  | none => .error (.columnName name)
  | some i => .ok (i, (r.values[i]?).getD .null)

inductive Reply
  | rows (columns : List String) (rows : List (List Value))
  | done (count : Nat)

namespace Sql

namespace Command

def table? : Command → Option String
  | .select _ table _ | .insert table _ _ | .update table _ _ | .delete table _ => some table
  | _ => none

def checkColumn (sql : String) (t : TableLayout) (c : ColumnName) : Except StoreError Unit :=
  if (t.place? c.name).isSome then .ok ()
  else .error (.located (.noSuchColumn c.name) sql c.offset)

def checkFilter (sql : String) (t : TableLayout) (filter : Option Condition) :
    Except StoreError Unit :=
  match filter.bind (·.unknownColumn? t) with
  | none => .ok ()
  | some c => .error (.located (.noSuchColumn c.name) sql c.offset)

/-- Names that the table does not have. Only a condition or a column list of SELECT tells
where the name stands. -/
def checkNames (sql : String) (t : TableLayout) : Command → Except StoreError Unit
  | .select columns _ filter => do
    (columns.getD []).forM (checkColumn sql t)
    checkFilter sql t filter
  | .insert table columns _ => do
    if let some c := columns.find? fun c => (t.place? c.name).isNone then
      throw (.failed (.noColumnNamed table c.name))
  | .update _ assignments filter => do
    if let some c := assignments.find? fun c => (t.place? c.1.name).isNone then
      throw (.failed (.noSuchColumn c.1.name))
    checkFilter sql t filter
  | .delete _ filter => checkFilter sql t filter
  | _ => .ok ()

end Command

end Sql

def SyntaxError.toStoreError (sql : String) (e : SyntaxError) : StoreError :=
  match e.offset with
  | some offset => .located e.cause sql offset
  | none => .failed e.cause

namespace Store

/-- Reads a statement and looks its names up. The first look at the tables needs to be
allowed to read; it takes no lasting lock. -/
def prepare (s : Store) (id : Nat) (c : Connection) (sql : String) :
    Except StoreError Command × Connection :=
  match Command.read (scan sql) with
  | .error e => (.error (SyntaxError.toStoreError sql e), c)
  | .ok command =>
    match command.table? with
    | none => (.ok command, c)
    | some name =>
      if !c.knowsTables && !s.mayRead id c then (.error (.failed .locked), c)
      else
        let c := { c with knowsTables := true }
        match (s.visible c).table? name with
        | none => (.error (.failed (.noSuchTable name)), c)
        | some t => ((command.checkNames sql t.layout).map fun _ => command, c)

/-- A statement fails, and the tables stay as they were. -/
def undo (s : Store) (id : Nat) (c : Connection) (cause : Failure) :
    Except Failure Reply × Store :=
  let tables := s.visible c
  let c := { c.locked .reserved with changes := 0 }
  (.error cause, s.putConnection id
    (if c.inTransaction then { c with work := some tables } else c))

/-- A statement fails and takes the whole transaction with it. -/
def setBack (s : Store) (id : Nat) (c : Connection) (e : MediumError) :
    Except Failure Reply × Store :=
  let c := if c.inTransaction then c.released else c
  (.error (.medium e), s.putConnection id { c with changes := 0 })

/-- Keeps a change: inside a transaction until the commit, outside it is committed at once or
not at all. -/
def complete (s : Store) (id : Nat) (c : Connection) (w : Work) (count : Nat) :
    Except Failure Reply × Store :=
  if c.inTransaction then
    (.ok (.done count), s.putConnection id
      { c.locked .reserved with
        work := some w.tables, openReferences := w.openReferences, changes := count })
  else if 0 < w.openReferences then
    (.error .danglingReference, s.putConnection id { c with changes := 0 })
  else if !s.mayCommit id c then
    (.error .locked, s.putConnection id { c with changes := 0 })
  else
    match c.medium.onCommit (s.committed c.file) w.tables with
    | some e => s.setBack id c e
    | none =>
      (.ok (.done count),
        (s.putTables c.file w.tables).putConnection id { c with changes := count })

/-- Runs a change. One that fails leaves the tables as they were. If the medium does not take
what it comes to, the whole transaction ends, unless the medium is full and the statement keeps a
journal of its own, by which it can be undone alone. -/
def write (s : Store) (id : Nat) (c : Connection) (journaled : Bool)
    (change : Work → Except Failure (Work × Nat)) : Except Failure Reply × Store :=
  if !s.mayWrite id c then (.error .locked, s.putConnection id { c with changes := 0 })
  else
    match change ⟨s.visible c, c.openReferences⟩ with
    | .error cause => s.undo id c cause
    | .ok (w, count) =>
      match c.medium.onWrite (s.committed c.file) w.tables with
      | some e =>
        if journaled && e == .full then s.undo id c (.medium e) else s.setBack id c e
      | none => s.complete id c w count

def readRows (s : Store) (id : Nat) (c : Connection) (columns : Option (List ColumnName))
    (t : Table) (parameters : List Value) (filter : Option Condition) :
    Except Failure Reply × Store :=
  if !s.mayRead id c then (.error .locked, s)
  else
    let rows := t.selected true parameters filter
    let reply := match columns with
      | none => Reply.rows t.layout.columnNames (rows.map Row.values)
      | some names =>
        let places := names.filterMap fun c => t.layout.place? c.name
        .rows (places.map t.layout.nameAt) (rows.map fun r => places.map r.valueAt)
    (.ok reply, s.putConnection id (c.locked .shared))

def begin (s : Store) (id : Nat) (c : Connection) (mode : TransactionMode) :
    Except Failure Reply × Store :=
  let blocked := match mode with
    | .deferred => false
    | .immediate => !s.mayWrite id c
    | .exclusive => !s.mayWrite id c || !s.mayCommit id c
  let (lock, work) : Lock × Option Tables := match mode with
    | .deferred => (.none, none)
    | .immediate => (.reserved, some (s.committed c.file))
    | .exclusive => (.exclusive, some (s.committed c.file))
  if blocked then (.error .locked, s)
  else if c.inTransaction then (.error .nestedBegin, s)
  else
    (.ok (.done c.changes), s.putConnection id
      { c with inTransaction := true, lock := lock, work := work })

/-- Ends a transaction and keeps its changes, if the medium takes them. While a reference is open
or another reads, the transaction goes on; in the second case new readers are kept out. -/
def commit (s : Store) (id : Nat) (c : Connection) : Except Failure Reply × Store :=
  if !c.inTransaction then (.error .commitOutside, s)
  else if 0 < c.openReferences then (.error .danglingReference, s)
  else
    match c.work with
    | none => (.ok (.done c.changes), s.putConnection id c.released)
    | some tables =>
      if s.mayCommit id c then
        match c.medium.onCommit (s.committed c.file) tables with
        | some e => (.error (.medium e), s.putConnection id c.released)
        | none => (.ok (.done c.changes), (s.putTables c.file tables).putConnection id c.released)
      else (.error .locked, s.putConnection id { c with lock := c.lock.join .pending })

def rollback (s : Store) (id : Nat) (c : Connection) : Except Failure Reply × Store :=
  if !c.inTransaction then (.error .rollbackOutside, s)
  else (.ok (.done c.changes), s.putConnection id c.released)

def isPlaced (s : Store) (file : Nat) : Bool := ((s.files[file]?).bind (·.place)).isSome

/-- Limits the pages of a file and tells how many it may have from now on. A private database,
which could be limited as well, takes no limit here. -/
def limitPages (s : Store) (id : Nat) (c : Connection) (limit : Nat) :
    Except Failure Reply × Store :=
  if !s.isPlaced c.file then (.error .privateLimit, s)
  else if !s.mayRead id c then (.error .locked, s)
  else
    let medium := c.medium.limited (s.visible c).pages limit
    (.ok (.rows ["max_page_count"] [[.integer (Int64.ofNat medium.maxPages)]]),
      s.putConnection id { c.locked .shared with knowsTables := true, medium := medium })

def step (s : Store) (id : Nat) (c : Connection) (command : Command) (parameters : List Value) :
    Except Failure Reply × Store :=
  let parameters := parameters.map Value.received
  let valueOf (o : Operand) : Value := o.value parameters
  let named (name : String) (act : Table → Except Failure Reply × Store) :
      Except Failure Reply × Store :=
    match (s.visible c).table? name with
    | none => (.error (.noSuchTable name), s)
    | some t => act t
  match command with
  | .select columns name filter => named name fun t => s.readRows id c columns t parameters filter
  | .insert name columns values => named name fun t =>
    let assignments := columns.zip (values.map valueOf)
    s.write id c false fun w => do return (← w.runInsert c.enforced t assignments, 1)
  | .update name assignments filter => named name fun t =>
    let rows := t.selected false parameters filter
    let assigned := assignments.map Prod.fst
    let journaled := Work.isJournaled c.enforced (s.visible c) t.layout assigned filter
    let assignments := assignments.map fun (column, o) => (column, valueOf o)
    s.write id c journaled fun w => do
      return (← Work.runUpdate c.enforced t.layout.name assignments w rows, rows.length)
  | .delete name filter => named name fun t =>
    let rows := t.selected false parameters filter
    s.write id c false fun w => .ok (Work.runDelete c.enforced t.layout.name w rows, rows.length)
  | .begin mode => s.begin id c mode
  | .commit => s.commit id c
  | .rollback => s.rollback id c
  | .limitPages limit => s.limitPages id c limit
  | .nothing => (.error .nothingToRun, s)

def asStoreError (r : Except Failure Reply × Store) : Except StoreError Reply × Store :=
  (r.1.mapError .failed, r.2)

def run (s : Store) (id : Nat) (sql : String) (parameters : List Value) :
    Except StoreError Reply × Store :=
  match s.connection? id with
  | none => (.error (.failed .nothingToRun), s)
  | some c =>
    let (prepared, c) := s.prepare id c sql
    let s := s.putConnection id c
    match prepared with
    | .error e => (.error e, s)
    | .ok command =>
      let needed := (parameterMarkers (scan sql)).length
      if parameters.length ≠ needed then
        (.error (.parameterCount parameters.length needed), s)
      else asStoreError (s.step id c command parameters)

/-- Runs SQL text and counts the changed rows; text that yields a row is refused. -/
def execute (s : Store) (id : Nat) (sql : String) (parameters : List Value) :
    Except StoreError Nat × Store :=
  let (reply, s) := s.run id sql parameters
  let count := match reply with
    | .error e => .error e
    | .ok (.done count) => .ok count
    | .ok (.rows _ []) => .ok (((s.connection? id).map (·.changes)).getD 0)
    | .ok (.rows _ (_ :: _)) => .error .returnedRows
  (count, s)

def query (s : Store) (id : Nat) (sql : String) (parameters : List Value) :
    Except StoreError (List ResultRow) × Store :=
  let (reply, s) := s.run id sql parameters
  let rows := match reply with
    | .error e => .error e
    | .ok (.done _) => .ok []
    | .ok (.rows columns rows) => .ok (rows.map fun values => ⟨columns, values⟩)
  (rows, s)

/-- Runs SQL text for its effect; placeholders stand for NULL, and no text is no error. -/
def runBatch (s : Store) (id : Nat) (sql : String) : Except StoreError Unit × Store :=
  match s.connection? id with
  | none => (.error (.failed .nothingToRun), s)
  | some c =>
    let (prepared, c) := s.prepare id c sql
    let s := s.putConnection id c
    match prepared with
    | .error e => (.error e, s)
    | .ok .nothing => (.ok (), s)
    | .ok command =>
      let (reply, s) := asStoreError (s.step id c command [])
      (reply.map fun _ => (), s)

def runCommand (s : Store) (id : Nat) (command : Command) : Except StoreError Unit × Store :=
  match s.connection? id with
  | none => (.error (.failed .nothingToRun), s)
  | some c =>
    let (reply, s) := asStoreError (s.step id c command [])
    (reply.map fun _ => (), s)

def inTransaction (s : Store) (id : Nat) : Bool :=
  match s.connection? id with
  | none => false
  | some c => c.inTransaction

end Store

end RecordStore
