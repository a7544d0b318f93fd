import RecordStore.Proofs.Opening

/-!
The store without its rows. Layouts, locks and places are all that is left, and whatever begins,
ends or looks for a connection does not notice.
-/
namespace RecordStore

open Sql

def Table.emptied (t : Table) : Table := { t with rows := [] }

def Tables.emptied (ts : Tables) : Tables := List.map Table.emptied ts

/-- What depends on rows is left out, and also whether the layouts have been looked at. -/
def Connection.emptied (c : Connection) : Connection :=
  { c with work := c.work.map Tables.emptied, openReferences := 0, changes := 0,
           knowsTables := false }

def DatabaseFile.emptied (f : DatabaseFile) : DatabaseFile :=
  { f with tables := f.tables.emptied }

def Store.emptied (s : Store) : Store :=
  { s with
    files := s.files.map DatabaseFile.emptied
    connections := s.connections.map fun (i, c) => (i, c.emptied) }

namespace Tables

theorem table?_emptied (ts : Tables) (name : String) :
    ts.emptied.table? name = (ts.table? name).map Table.emptied := by
  rw [table?, table?, emptied, List.find?_map]
  rfl

end Tables

namespace Connection

@[simp] theorem emptied_file (c : Connection) : c.emptied.file = c.file := rfl

@[simp] theorem emptied_inTransaction (c : Connection) :
    c.emptied.inTransaction = c.inTransaction := rfl

@[simp] theorem emptied_work (c : Connection) : c.emptied.work = c.work.map Tables.emptied := rfl

theorem emptied_locked (c : Connection) (l : Lock) :
    (c.locked l).emptied = c.emptied.locked l := by
  unfold locked
  rw [emptied_inTransaction]
  split <;> rfl

theorem emptied_released (c : Connection) : c.released.emptied = c.emptied.released := rfl

end Connection

namespace Store

variable {s : Store} {id : Nat} {c : Connection}

theorem connection?_emptied (s : Store) (id : Nat) :
    s.emptied.connection? id = (s.connection? id).map Connection.emptied := by
  rw [connection?, connection?]
  simp only [emptied]
  induction s.connections with
  | nil => rfl
  | cons e rest ih =>
    obtain ⟨i, c⟩ := e
    by_cases here : id = i
    · simp [here]
    · have apart : (id == i) = false := beq_eq_false_iff_ne.mpr here
      simp [List.lookup_cons, apart, ih]

theorem connection?_emptied_of (conn : s.connection? id = some c) :
    s.emptied.connection? id = some c.emptied := by
  rw [connection?_emptied, conn]
  rfl

/-- Stores with the same emptied store have the same connections open. -/
theorem connections_of_emptied {s' : Store} (same : s.emptied = s'.emptied) (id : Nat) :
    (s.connection? id = none ∧ s'.connection? id = none) ∨
      ∃ c c', s.connection? id = some c ∧ s'.connection? id = some c' ∧
        c.emptied = c'.emptied := by
  have maps : (s.connection? id).map Connection.emptied
      = (s'.connection? id).map Connection.emptied := by
    rw [← connection?_emptied, same, connection?_emptied]
  cases conn : s.connection? id with
  | none =>
    rw [conn, Option.map_none, eq_comm, Option.map_eq_none_iff] at maps
    exact .inl ⟨rfl, maps⟩
  | some c =>
    rw [conn, Option.map_some, eq_comm, Option.map_eq_some_iff] at maps
    obtain ⟨c', conn', equal⟩ := maps
    exact .inr ⟨c, c', rfl, conn', equal.symm⟩

theorem othersHold_emptied (s : Store) (id file : Nat) (l : Lock) :
    s.emptied.othersHold id file l = s.othersHold id file l := by
  rw [othersHold, othersHold, emptied, List.any_map]
  rfl

theorem mayBegin_emptied (s : Store) (id : Nat) (c : Connection) (mode : TransactionMode) :
    s.emptied.mayBegin id c.emptied mode = s.mayBegin id c mode := by
  cases mode <;>
    simp only [mayBegin, mayWrite, mayCommit, othersHold_emptied, Connection.emptied_file]

theorem committed_emptied (s : Store) (file : Nat) :
    s.emptied.committed file = (s.committed file).emptied := by
  simp only [committed, emptied, List.getElem?_map, Option.map_map]
  cases s.files[file]? with
  | none => rfl
  | some f => rfl

theorem visible_emptied (s : Store) (c : Connection) :
    s.emptied.visible c.emptied = (s.visible c).emptied := by
  rw [visible, visible, Connection.emptied_work, Connection.emptied_file, committed_emptied]
  cases c.work with
  | none => rfl
  | some tables => rfl

theorem emptied_putConnection (s : Store) (id : Nat) (c : Connection) :
    (s.putConnection id c).emptied = s.emptied.putConnection id c.emptied := by
  simp only [emptied, putConnection, List.map_map]
  congr 1
  refine List.map_congr_left fun e _ => ?_
  dsimp only [Function.comp]
  split <;> rfl

theorem emptied_putTables (s : Store) (file : Nat) (ts : Tables) :
    (s.putTables file ts).emptied = s.emptied.putTables file ts.emptied := by
  simp only [emptied, putTables]
  congr 1
  apply List.ext_getElem?
  intro i
  simp only [List.getElem?_map, List.getElem?_modify]
  cases s.files[i]? with
  | none => rfl
  | some f =>
    simp only [Functor.map, Option.map]
    split <;> rfl

theorem emptied_close (s : Store) (id : Nat) : (s.close id).emptied = s.emptied.close id := by
  simp only [emptied, close, List.filter_map]
  rfl

theorem emptied_addFile (s : Store) (f : DatabaseFile) :
    (s.addFile f).emptied = s.emptied.addFile f.emptied := by
  simp [emptied, addFile]

theorem emptied_connect (s : Store) (file : Nat) (enforced : Bool) :
    s.emptied.connect file enforced
      = ((s.connect file enforced).1, (s.connect file enforced).2.emptied) := by
  simp [emptied, connect, Connection.emptied, Connection.fresh]

/-! ## Opening -/

theorem fileAt?_emptied (s : Store) (place : List String) :
    s.emptied.fileAt? place = s.fileAt? place := by
  rw [fileAt?, fileAt?, emptied, List.findIdx?_map]
  rfl

theorem placeOf?_emptied (s : Store) (path : String) :
    s.emptied.placeOf? path = s.placeOf? path := by
  have enters : s.emptied.enter = s.enter := by
    funext place segment
    rw [enter, enter, fileAt?_emptied]
    rfl
  rw [placeOf?, placeOf?, enters]

theorem openPath_emptied (s : Store) (path : String) (enforced : Bool) :
    s.emptied.openPath path enforced
      = (s.openPath path enforced).map fun (n, s) => (n, s.emptied) := by
  have length : s.emptied.files.length = s.files.length := List.length_map ..
  have room : ∀ place, s.emptied.hasRoomAt place = s.hasRoomAt place := fun _ => rfl
  rw [openPath, openPath, placeOf?_emptied]
  split
  · rfl
  cases s.placeOf? path with
  | none => rfl
  | some place =>
    dsimp only
    rw [fileAt?_emptied, room, length]
    cases s.fileAt? place with
    | some file => exact congrArg Except.ok (emptied_connect ..)
    | none =>
      dsimp only
      split
      · rw [Except.map, ← emptied_connect, emptied_addFile]
        rfl
      · rfl

theorem openPrivate_emptied (s : Store) (tables : Tables) (enforced : Bool) :
    s.emptied.openPrivate tables.emptied enforced
      = ((s.openPrivate tables enforced).1, (s.openPrivate tables enforced).2.emptied) := by
  have length : s.emptied.files.length = s.files.length := List.length_map ..
  rw [openPrivate, openPrivate, ← emptied_connect, emptied_addFile, length]
  rfl

/-! ## Commands without rows -/

theorem runCommand_begin_emptied (s : Store) (id : Nat) (mode : TransactionMode) :
    s.emptied.runCommand id (.begin mode)
      = ((s.runCommand id (.begin mode)).1, (s.runCommand id (.begin mode)).2.emptied) := by
  cases conn : s.connection? id with
  | none => rw [runCommand, runCommand, connection?_emptied, conn]; rfl
  | some c =>
    have conn' := connection?_emptied_of conn
    have begun : (c.begun (s.committed c.file) mode).emptied
        = c.emptied.begun (s.committed c.file).emptied mode := by cases mode <;> rfl
    rw [runCommand_begin conn, runCommand_begin conn', mayBegin_emptied,
      Connection.emptied_inTransaction, Connection.emptied_file, committed_emptied, ← begun,
      ← emptied_putConnection]
    split
    · rfl
    · split <;> rfl

theorem runCommand_rollback_emptied (s : Store) (id : Nat) :
    s.emptied.runCommand id .rollback
      = ((s.runCommand id .rollback).1, (s.runCommand id .rollback).2.emptied) := by
  rw [runCommand, runCommand, connection?_emptied]
  cases s.connection? id with
  | none => rfl
  | some c =>
    simp only [Option.map_some, step, rollback, Connection.emptied_inTransaction,
      ← Connection.emptied_released, ← emptied_putConnection]
    split <;> rfl

theorem inTransaction_emptied (s : Store) (id : Nat) :
    s.emptied.inTransaction id = s.inTransaction id := by
  rw [inTransaction, inTransaction, connection?_emptied]
  cases s.connection? id <;> rfl

end Store

end RecordStore
