import RecordStore.Proofs.Entry.Rows
import RecordStore.Proofs.Opening
import RecordStore.Proofs.Predicate.Answers
import RecordStore.Proofs.Session.Calls
import RecordStore.Proofs.Store.Tables

/-!
Entries after they have been created. A fresh unit takes every entry with an identifier of
its own, and then finds those that a predicate holds of.
-/
namespace RecordStore

open Sql

/-! ## Statements on a table that is there -/

/-- The connection goes on with its transaction and sees these tables. -/
structure Connection.GoesOn (s : Store) (c c' : Connection) (tables : Tables) : Prop where
  file : c'.file = c.file
  transaction : c'.inTransaction = true
  medium : c'.medium = c.medium
  sees : s.visible c' = tables

namespace UnitOfWork

/-- The unit is open on a medium that takes everything, nobody else has a lock on its file, and it
sees the table. -/
structure HoldsTable (u : UnitOfWork) (w : World) (id : Nat) (c : Connection) (name : String)
    (t : Table) : Prop where
  opened : u.openConnection? = some id
  connected : w.store.connection? id = some c
  transaction : c.inTransaction = true
  reliable : c.medium = .reliable
  alone : ∀ l, w.store.othersHold id c.file l = false
  sees : (w.store.visible c).table? name = some t

namespace HoldsTable

variable {u u' : UnitOfWork} {w w' : World} {id : Nat} {c c' : Connection} {name : String}
  {t t' : Table} {tables : Tables}

theorem goesOn (holds : u.HoldsTable w id c name t) (on : c.GoesOn w.store c' tables)
    (found : tables.table? name = some t') (opened : u'.openConnection? = some id)
    (store : w'.store = w.store.putConnection id c') : u'.HoldsTable w' id c' name t' where
  opened := opened
  connected := by rw [store, Store.connection?_putConnection_self holds.connected]
  transaction := on.transaction
  reliable := on.medium.trans holds.reliable
  alone := by simpa [store, on.file] using holds.alone
  sees := by rw [store, Store.visible_putConnection, on.sees, found]

/-- A statement that changes rows replaces the tables or, if it fails, leaves them. -/
theorem execute_change (holds : u.HoldsTable w id c name t) {sql : String} {command : Command}
    {parameters : List Value} {change : Work → Except Failure (Work × Nat)}
    (read : Command.read (scan sql) = .ok command) (table : command.table? = some name)
    (names : command.checkNames sql t.layout = .ok ())
    (count : parameters.length = (parameterMarkers (scan sql)).length)
    (steps : ∀ (s : Store) (k : Connection), k.enforced = c.enforced →
      (s.visible k).table? name = some t →
        ∃ journaled, s.step id k command parameters = s.write id k journaled change) :
    (∀ work n, change ⟨w.store.visible c, c.openReferences⟩ = .ok (work, n) →
      ∃ c', w.store.execute id sql parameters = (.ok n, w.store.putConnection id c') ∧
        c.GoesOn w.store c' work.tables) ∧
    ∀ cause, change ⟨w.store.visible c, c.openReferences⟩ = .error cause →
      ∃ c', w.store.execute id sql parameters
          = (.error (.failed cause), w.store.putConnection id c') ∧
        c.GoesOn w.store c' (w.store.visible c) := by
  let known : Connection := { c with knowsTables := true }
  have reads : w.store.mayRead id c = true := by simp [Store.mayRead, holds.alone]
  have may : (!c.knowsTables && !w.store.mayRead id c) = false := by simp [reads]
  have writes : (w.store.putConnection id known).mayWrite id known = true := by
    simp [Store.mayWrite, known, holds.alone .reserved]
  obtain ⟨journaled, stepped⟩ := steps (w.store.putConnection id known) known rfl holds.sees
  have ran : w.store.run id sql parameters
      = Store.asStoreError ((w.store.putConnection id known).write id known journaled change) := by
    rw [← stepped]
    exact Store.run_of_command holds.connected read table may holds.sees names count
  constructor
  · intro work n changed
    have takes (committed : Tables) : known.medium.onWrite committed work.tables = none :=
      holds.reliable ▸ Medium.onWrite_reliable committed work.tables
    rw [Store.write_of_ok writes holds.transaction changed (takes _),
      Store.putConnection_putConnection] at ran
    rw [Store.execute, ran]
    exact ⟨_, rfl, known.locked_file _, (known.locked_inTransaction _).trans holds.transaction,
      known.locked_medium _, rfl⟩
  · intro cause failed
    rw [Store.write_of_error writes holds.transaction failed, Store.putConnection_putConnection]
      at ran
    rw [Store.execute, ran]
    exact ⟨_, rfl, known.locked_file _, (known.locked_inTransaction _).trans holds.transaction,
      known.locked_medium _, rfl⟩

end HoldsTable

end UnitOfWork

namespace Entry

/-- The assignments give each column its value. -/
def Assigns (e : Entry) (assignments : List (ColumnName × Value)) : Prop :=
  assignments.map (fun (c, v) => (c.name, v)) = descriptor.columnNames.zip e.values

variable {e : Entry} {changes : List (ColumnName × Value)}

theorem Assigns.assignedValue? (assigns : e.Assigns changes) (place : ColumnPlace) :
    assignedValue? entriesLayout changes place
      = if place = .cell 1 then some (.text e.date.text)
        else if place = .cell 0 then
          some (match e.description with | none => .null | some s => .text s)
        else if place = .key then some (.integer e.id) else none := by
  have columns : (descriptor.columnNames.zip e.values).reverse = [("DATE", .text e.date.text),
      ("DESCRIPTION", match e.description with | none => .null | some s => .text s),
      ("ID", .integer e.id)] := rfl
  rw [RecordStore.assignedValue?_eq, assigns, columns]
  simp only [List.find?_cons, List.find?_nil, place_id, place_description, place_date,
    Option.some.injEq, eq_comm (b := place)]
  by_cases date : place = .cell 1
  · simp [date]
  · by_cases description : place = .cell 0
    · simp [description]
    · by_cases key : place = .key <;> simp [date, description, key]

theorem Assigns.assignedCells (assigns : e.Assigns changes) (default : Nat → Value) :
    assignedCells entriesLayout changes default = e.row.cells := by
  have cells : entriesLayout.cells
      = [⟨"DESCRIPTION", .text, false, none⟩, ⟨"DATE", .text, true, none⟩] := rfl
  rw [RecordStore.assignedCells, cells]
  simp [assigns.assignedValue?, row, Affinity.store, Value.textForm]
  cases e.description <;> rfl

theorem checkRow_row (e : Entry) {t : Table} (layout : t.layout = entriesLayout) :
    Work.checkRow t e.row
      = if t.hasKey e.id then .error (.duplicateKey "ENTRIES" "ID") else .ok () := by
  have complete : Work.missingCell? entriesLayout e.row = none := by
    obtain ⟨i, s, d⟩ := e
    cases s <;> rfl
  have key : e.row.key = e.id := rfl
  simp only [Work.checkRow, layout, complete, key]
  cases t.hasKey e.id with
  | true => rfl
  | false => rfl

def insertSql : String :=
  "INSERT INTO ENTRIES (ID, DESCRIPTION, DATE) VALUES (@ID, @DESCRIPTION, @DATE)"

def insertColumns : List ColumnName := [⟨"ID", 21⟩, ⟨"DESCRIPTION", 25⟩, ⟨"DATE", 38⟩]

def insertCommand : Command :=
  .insert "ENTRIES" insertColumns [.parameter 0, .parameter 1, .parameter 2]

theorem insert_statement (e : Entry) :
    Statement.insert descriptor e.values = .ok ⟨insertSql, e.values⟩ := by
  have arity : Statement.checkArity descriptor e.values = .ok () := rfl
  rw [Statement.insert, arity, ok_bind]
  refine congrArg (fun sql => (Except.ok ⟨sql, e.values⟩ : Except ArityError Statement)) ?_
  decide

theorem read_insertSql : Command.read (scan insertSql) = .ok insertCommand :=
  eq_ok_of_toOption (by decide)

theorem checkNames_insertSql :
    insertCommand.checkNames insertSql entriesLayout = .ok () :=
  eq_ok_of_toOption (by decide)

theorem parameters_insertSql : (parameterMarkers (scan insertSql)).length = 3 := by
  decide

def assignments (e : Entry) : List (ColumnName × Value) :=
  insertColumns.zip (([.parameter 0, .parameter 1, .parameter 2] : List Operand).map
    (Operand.value (e.values.map Value.received)))

theorem assigns_assignments (e : Entry) : e.Assigns e.assignments := by
  obtain ⟨i, s, d⟩ := e
  cases s <;> rfl

def insertion (e : Entry) (enforced : Bool) (t : Table) (w : Work) :
    Except Failure (Work × Nat) := do
  return (← w.runInsert enforced t e.assignments, 1)

/-- An entry refers to nothing, so it cannot open a reference. -/
theorem balanceWith_row (e : Entry) {t : Table} (layout : t.layout = entriesLayout) {w : Work}
    (closed : w.openReferences = 0) (enforced : Bool) :
    Work.balanceIf enforced w (w.balanceWith (fun _ => true) true t e.row) = 0 := by
  have own : Work.danglingCells w.tables (fun _ => true) t.layout e.row = 0 := by
    rw [layout]
    rfl
  have none : Work.balanceWith w (fun _ => true) true t e.row = 0 := by
    simp only [Work.balanceWith, own, closed, Work.mend, if_true]
    rfl
  rw [none, Work.balanceIf, closed]
  exact ite_self 0

theorem insertion_eq (e : Entry) {t : Table} (layout : t.layout = entriesLayout)
    (free : t.hasKey e.id = false) (enforced : Bool) (w : Work) :
    ∃ balance, e.insertion enforced t w = .ok (⟨w.tables.put (t.insert e.row), balance⟩, 1) ∧
      (w.openReferences = 0 → balance = 0) := by
  have accepted := e.checkRow_row layout
  rw [free, if_neg Bool.false_ne_true] at accepted
  refine ⟨Work.balanceIf enforced w (w.balanceWith (fun _ => true) true t e.row), ?_,
    fun closed => e.balanceWith_row layout closed enforced⟩
  have assigns := e.assigns_assignments
  have inserted : w.runInsert enforced t e.assignments = Work.insertRow enforced w t e.row := by
    simp only [Work.runInsert, layout, assigns.assignedCells, assigns.assignedValue?]
    rfl
  rw [insertion, inserted, Work.insertRow, accepted]
  rfl

theorem step_insertCommand (e : Entry) {s : Store} {id : Nat} {c : Connection} {t : Table}
    (found : (s.visible c).table? "ENTRIES" = some t) :
    s.step id c insertCommand e.values = s.write id c false (e.insertion c.enforced t) := by
  simp only [Store.step, insertCommand, found]
  rfl

theorem execute_insert (e : Entry) {u : UnitOfWork} {w : World} {id : Nat} {c : Connection}
    {t : Table} (holds : u.HoldsTable w id c "ENTRIES" t) (layout : t.layout = entriesLayout)
    (free : t.hasKey e.id = false) :
    ∃ c' tables, w.store.execute id insertSql e.values = (.ok 1, w.store.putConnection id c') ∧
      c.GoesOn w.store c' tables ∧ tables.table? "ENTRIES" = some (t.insert e.row) := by
  have names : insertCommand.checkNames insertSql t.layout = .ok () := by
    rw [layout, checkNames_insertSql]
  have count : e.values.length = (parameterMarkers (scan insertSql)).length := by
    rw [parameters_insertSql]
    rfl
  obtain ⟨balance, inserted, _⟩ := e.insertion_eq layout free c.enforced
    ⟨w.store.visible c, c.openReferences⟩
  obtain ⟨goes_on, _⟩ := holds.execute_change read_insertSql rfl names count
    fun s k same found => ⟨false, by rw [e.step_insertCommand found, same]⟩
  obtain ⟨c', executed, on⟩ := goes_on _ _ inserted
  exact ⟨c', _, executed, on, Tables.table?_put holds.sees rfl⟩

end Entry

namespace Repository

theorem create_entry (e : Entry) {u : UnitOfWork} {w : World} {n : Nat} {c : Connection}
    {t : Table} (holds : u.HoldsTable w n c "ENTRIES" t) (layout : t.layout = entriesLayout)
    (free : t.hasKey e.id = false) :
    (create entryRecord e u w).answer = .ok 1 ∧ (create entryRecord e u w).unit = u ∧
      ∃ c', u.HoldsTable (create entryRecord e u w).world n c' "ENTRIES" (t.insert e.row) := by
  obtain ⟨c', tables, executed, on, found⟩ := e.execute_insert holds layout free
  let build (d : Descriptor) : Except RepositoryError Statement :=
    (Statement.insert d (entryRecord.values e)).mapError .statement
  have built : build Entry.descriptor = .ok ⟨Entry.insertSql, e.values⟩ :=
    mapError_eq_ok.mpr e.insert_statement
  obtain ⟨answer, unit, store⟩ := (gives_change entryRecord .create build
    Entry.describe_declaration built holds.opened w).1 1 _ executed
  exact ⟨answer, unit, c', holds.goesOn on found holds.opened store⟩

def createAll {α : Type} (r : RecordType α) (u : UnitOfWork) (w : World) :
    List α → List (Except RepositoryError Nat) × UnitOfWork × World
  | [] => ([], u, w)
  | model :: rest =>
    let s := create r model u w
    let (answers, u, w) := createAll r s.unit s.world rest
    (s.answer :: answers, u, w)

/-- Entries with identifiers that are free and differ from each other can all be created. -/
theorem createAll_entries {es : List Entry} {u : UnitOfWork} {w : World} {n : Nat}
    {c : Connection} {t : Table} (holds : u.HoldsTable w n c "ENTRIES" t)
    (layout : t.layout = entriesLayout) (distinct : (es.map Entry.id).Nodup)
    (free : ∀ e ∈ es, t.hasKey e.id = false) :
    ∃ w' c' t', createAll entryRecord u w es = (es.map fun _ => .ok 1, u, w') ∧
      u.HoldsTable w' n c' "ENTRIES" t' ∧ t'.layout = entriesLayout ∧
      t'.rows.Perm (es.map Entry.row ++ t.rows) := by
  induction es generalizing w c t with
  | nil => exact ⟨w, c, t, rfl, holds, layout, .refl _⟩
  | cons e es ih =>
    rw [List.map_cons, List.nodup_cons] at distinct
    obtain ⟨answer, unit, c₁, holds₁⟩ :=
      create_entry e holds layout (free e (List.mem_cons_self ..))
    have still_free : ∀ e' ∈ es, (t.insert e.row).hasKey e'.id = false := by
      intro e' mem
      have other : e.id ≠ e'.id := fun same =>
        distinct.1 (same ▸ List.mem_map_of_mem mem)
      have earlier := free e' (List.mem_cons_of_mem _ mem)
      simp only [Table.hasKey, List.any_eq_false] at earlier ⊢
      intro r hr
      rcases List.mem_cons.mp ((Table.insertSorted_perm e.row t.rows).mem_iff.mp hr)
        with rfl | old
      · simpa [Entry.row] using other
      · exact earlier r old
    obtain ⟨w', c', t', created, holds', layout', perm⟩ :=
      ih holds₁ layout distinct.2 still_free
    refine ⟨w', c', t', ?_, holds', layout', ?_⟩
    · rw [createAll, unit, created, answer]
      rfl
    · refine perm.trans ?_
      have inserted := (Table.insertSorted_perm e.row t.rows).append_left (es.map Entry.row)
      exact inserted.trans List.perm_middle

end Repository

theorem World.beginUnit_memory {w w' : World} {tables : Tables} {o : StoreOptions}
    {u : UnitOfWork} {name : String} {t : Table} (numbered : w.store.IsNumbered)
    (begun : w.beginUnit (.memory tables) o none = (.ok u, w'))
    (found : tables.table? name = some t) :
    u.filterMode = o.filterMode ∧ ∃ n c, u.HoldsTable w' n c name t := by
  rcases w.beginUnit_cases (.memory tables) o with
    ⟨e, _, failed, _⟩ | ⟨n, s, connected, _, ⟨e, _, _, _, failed, _⟩ | ⟨w₁, ran, began⟩⟩
  · rw [begun] at failed
    cases failed
  · rw [begun] at failed
    cases failed
  obtain ⟨rfl, rfl⟩ : u = ⟨some n, .ongoing, none, o.filterMode⟩ ∧ w' = w₁ := by
    rw [begun] at began
    cases began
    exact ⟨rfl, rfl⟩
  obtain ⟨rfl, rfl⟩ : n = w.store.nextConnection ∧
      s = (w.store.openPrivate tables o.foreignKeys).2 := by
    cases connected
    exact ⟨rfl, rfl⟩
  have conn := Store.connection?_openPrivate numbered tables o.foreignKeys
  have alone := Store.othersHold_openPrivate numbered tables o.foreignKeys
  have committed : (w.store.openPrivate tables o.foreignKeys).2.committed w.store.files.length
      = tables := by
    simp [Store.committed, Store.openPrivate, Store.connect, Store.addFile]
  generalize (w.store.openPrivate tables o.foreignKeys).2 = s at conn alone ran committed
  rw [Store.runCommand_begin conn] at ran
  split at ran
  · cases ran
  rw [if_neg (by simp [Connection.fresh])] at ran
  have store := (Prod.mk.inj ran).2
  refine ⟨rfl, w.store.nextConnection, (Connection.fresh w.store.files.length o.foreignKeys).begun
    (s.committed w.store.files.length) o.transactionMode, ?_⟩
  exact
    { opened := rfl
      connected := by
        rw [← store, Store.connection?_putConnection_self conn]
        rfl
      transaction := Connection.begun_inTransaction ..
      reliable := Connection.begun_medium ..
      alone := by simpa [← store, Connection.fresh] using alone
      sees := by
        rw [← store, Store.visible_putConnection, Store.visible_begun, committed, found] }

end RecordStore
