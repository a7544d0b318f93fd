import RecordStore.Proofs.Opening
import RecordStore.Proofs.Store.Places
import RecordStore.Proofs.Store.Transactions

/-!
Reading a table from outside. A connection of its own sees the committed tables, unless a
commit is pending and keeps it out.
-/
namespace RecordStore

open Sql

namespace Store

variable {s s' : Store} {n m : Nat} {c c' : Connection} {sql : String}

/-- Connections that see the same tables and may read alike get the same reply. -/
theorem run_select_congr {rest : List Char} (text : sql.toList = "SELECT".toList ++ ' ' :: rest)
    (parameters : List Value) (conn : s.connection? n = some c)
    (conn' : s'.connection? m = some c') (sees : s'.visible c' = s.visible c)
    (may : s'.mayRead m c' = s.mayRead n c)
    (looks : (!c'.knowsTables && !s'.mayRead m c') = (!c.knowsTables && !s.mayRead n c)) :
    (s'.run m sql parameters).1 = (s.run n sql parameters).1 := by
  cases read : Command.read (scan sql) with
  | error e => simp only [run, conn, conn', prepare, read]
  | ok command =>
    obtain ⟨columns, name, filter, rfl⟩ := select_of_read text read
    have table : (Command.select columns name filter).table? = some name := rfl
    by_cases blocked : (!c.knowsTables && !s.mayRead n c) = true
    · simp only [run, conn, conn', prepare, read, table, looks, blocked, if_true]
    have free : (!c.knowsTables && !s.mayRead n c) = false := Bool.eq_false_iff.mpr blocked
    have free' : (!c'.knowsTables && !s'.mayRead m c') = false := by rw [looks, free]
    cases found : (s.visible c).table? name with
    | none =>
      have known : (s.visible { c with knowsTables := true }).table? name = none := found
      have known' : (s'.visible { c' with knowsTables := true }).table? name = none :=
        (congrArg (fun tables => Tables.table? tables name) sees).trans found
      simp [run, conn, conn', prepare, read, table, free, free', known, known']
    | some t =>
      have known : (s.visible { c with knowsTables := true }).table? name = some t := found
      have found' : (s'.visible c').table? name = some t := by rw [sees, found]
      have known' : (s'.visible { c' with knowsTables := true }).table? name = some t := found'
      cases names : (Command.select columns name filter).checkNames sql t.layout with
      | error e =>
        simp [run, conn, conn', prepare, read, table, free, free', known, known', names, Except.map]
      | ok _ =>
        by_cases count : parameters.length = (parameterMarkers (scan sql)).length
        · rw [run_of_command conn read table free found names count,
            run_of_command conn' read table free' found' names count]
          have may' : s'.mayRead m { c' with knowsTables := true }
              = s.mayRead n { c with knowsTables := true } := may
          by_cases reads : s.mayRead n { c with knowsTables := true } = true
          · simp [asStoreError, step, known, known', readRows, may', reads]
          · simp [asStoreError, step, known, known', readRows, may', reads]
        · simp [run, conn, conn', prepare, read, table, free, free', known, known', names,
            Except.map, count]

theorem run_select_locked {rest : List Char}
    (text : sql.toList = "SELECT".toList ++ ' ' :: rest) (parameters : List Value)
    {command : Command} (read : Command.read (scan sql) = .ok command)
    (conn : s.connection? n = some c) (unknown : c.knowsTables = false)
    (blocked : s.mayRead n c = false) :
    (s.run n sql parameters).1 = .error (.failed .locked) := by
  obtain ⟨columns, name, filter, rfl⟩ := select_of_read text read
  have table : (Command.select columns name filter).table? = some name := rfl
  simp [run, conn, prepare, read, table, unknown, blocked]

end Store

namespace World

variable {w w' : World} {path : String} {file : Nat}

theorem readTable_eq (leads : w.store.LeadsTo path file) (table : String) :
    (w.readTable path table).1
      = (((w.store.connect file readingOptions.foreignKeys).2.run w.store.nextConnection
          ("SELECT * FROM " ++ table) []).1.map fun reply =>
            (Store.rowsOfReply reply).map ResultRow.values).mapError .outside := by
  have connected : connect w.store (.file path) readingOptions
      = .ok (w.store.nextConnection, (w.store.connect file readingOptions.foreignKeys).2) :=
    leads.openPath _
  obtain ⟨w₁, opened, store⟩ := openDatabase_ok connected (by decide)
  rw [readTable, opened]
  dsimp only
  rw [store, Store.query_eq]
  generalize (Store.run _ _ _ _).1 = reply
  cases reply <;> rfl

/-- What is read from outside are the committed tables, whatever goes on in transactions; only
a commit that waits for its readers keeps others out. -/
theorem readTable_committed (leads : w.store.LeadsTo path file)
    (leads' : w'.store.LeadsTo path file)
    (unused : w.store.connection? w.store.nextConnection = none)
    (alone : w'.store.connections = [])
    (same : w'.store.committed file = w.store.committed file) (table : String) :
    (w.readTable path table).1 = (w'.readTable path table).1 ∨
      (w.readTable path table).1 = .error (.outside (.failed .locked)) ∧
        ∃ e ∈ w.store.connections, e.2.file = file ∧ e.2.lock.atLeast .pending = true := by
  have text : ("SELECT * FROM " ++ table).toList
      = "SELECT".toList ++ ' ' :: ("* FROM ".toList ++ table.toList) := by simp
  rw [readTable_eq leads, readTable_eq leads']
  have conn := (Store.connection?_connect unused file readingOptions.foreignKeys _).trans
    (if_pos rfl)
  have single : (w'.store.connect file readingOptions.foreignKeys).2.connections
      = [(w'.store.nextConnection, .fresh file readingOptions.foreignKeys)] := by
    simp [Store.connect, alone]
  have conn' : (w'.store.connect file readingOptions.foreignKeys).2.connection?
      w'.store.nextConnection = some (.fresh file readingOptions.foreignKeys) := by
    simp [Store.connection?, single]
  have may' : (w'.store.connect file readingOptions.foreignKeys).2.mayRead
      w'.store.nextConnection (.fresh file readingOptions.foreignKeys) = true := by
    simp [Store.mayRead, Store.othersHold, single]
  cases may : (w.store.connect file readingOptions.foreignKeys).2.mayRead
      w.store.nextConnection (.fresh file readingOptions.foreignKeys) with
  | true =>
    left
    have alike := may'.trans may.symm
    rw [Store.run_select_congr text [] conn conn' same alike (by rw [alike])]
  | false =>
    cases read : Command.read (scan ("SELECT * FROM " ++ table)) with
    | error e =>
      left
      simp only [Store.run, conn, conn', Store.prepare, read]
    | ok command =>
      right
      constructor
      · rw [Store.run_select_locked text [] read conn rfl may]
        rfl
      · have pending : w.store.othersHold w.store.nextConnection file .pending = true := by
          simpa [Store.mayRead, Store.othersHold, Store.connect, Connection.fresh, Lock.atLeast,
            Lock.rank] using may
        obtain ⟨e, mem, holds⟩ := List.any_eq_true.mp pending
        simp only [Bool.and_eq_true, beq_iff_eq] at holds
        exact ⟨e, mem, holds.1.2, holds.2⟩

end World

end RecordStore
