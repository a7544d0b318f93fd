import RecordStore.Proofs.Entry.Found
import RecordStore.Proofs.Predicate.Carried
import RecordStore.Proofs.Session.InMemory
import RecordStore.Proofs.Sql.ChangeText

/-!
Entries changed through a predicate. UPDATE and DELETE select the rows that SELECT shows, though
their parameters stand elsewhere, so they act on exactly the entries that a unit has found.
-/
namespace RecordStore

open Sql

/-! ## Rows of entries -/

namespace Entry

variable {m : Entry} {w : Work} {t : Table} {r r' : Row} {rest : List Row}
  {changes : List (ColumnName × Value)}

theorem Assigns.updatedRow (assigns : m.Assigns changes) (r : Row) :
    Work.updatedRow entriesLayout changes r = .ok m.row := by
  simp only [Work.updatedRow, assigns.assignedCells, assigns.assignedValue?]
  rfl

theorem replaceRow_taken (layout : t.layout = entriesLayout)
    (taken : (t.erase r.key).hasKey m.id = true) (enforced : Bool)
    (assigned : ColumnPlace → Bool) (w : Work) :
    Work.replaceRow enforced assigned w t r m.row = .error (.duplicateKey "ENTRIES" "ID") := by
  have refused := m.checkRow_row (t := t.erase r.key) layout
  rw [taken, if_pos rfl] at refused
  rw [Work.replaceRow, refused]
  rfl

theorem replaceRow_free (layout : t.layout = entriesLayout)
    (free : (t.erase r.key).hasKey m.id = false) (enforced : Bool)
    (assigned : ColumnPlace → Bool) (w : Work) :
    ∃ balance, Work.replaceRow enforced assigned w t r m.row
      = .ok ⟨w.tables.put ((t.erase r.key).insert m.row), balance⟩ := by
  have accepted := m.checkRow_row (t := t.erase r.key) layout
  rw [free, if_neg Bool.false_ne_true] at accepted
  have twice : (w.tables.put (t.erase r.key)).put ((t.erase r.key).insert m.row)
      = w.tables.put ((t.erase r.key).insert m.row) := Tables.put_put w.tables rfl
  rw [Work.replaceRow, accepted, ok_bind, ← twice]
  exact ⟨_, rfl⟩

/-- An update replaces the first row by the entry and goes on with the others. -/
theorem runUpdate_cons (layout : t.layout = entriesLayout)
    (found : w.tables.table? "ENTRIES" = some t) (assigns : m.Assigns changes) (enforced : Bool)
    (r : Row) (rest : List Row) :
    ∃ assigned, Work.runUpdate enforced "ENTRIES" changes w (r :: rest)
      = Work.replaceRow enforced assigned w t r m.row >>= fun w =>
          Work.runUpdate enforced "ENTRIES" changes w rest := by
  have updated := assigns.updatedRow r
  rw [← layout] at updated
  rw [Work.runUpdate, found]
  dsimp only
  rw [updated]
  exact ⟨_, rfl⟩

theorem runUpdate_taken (layout : t.layout = entriesLayout)
    (found : w.tables.table? "ENTRIES" = some t) (assigns : m.Assigns changes) (enforced : Bool)
    (taken : (t.erase r.key).hasKey m.id = true) (rest : List Row) :
    Work.runUpdate enforced "ENTRIES" changes w (r :: rest)
      = .error (.duplicateKey "ENTRIES" "ID") := by
  obtain ⟨assigned, first⟩ := runUpdate_cons layout found assigns enforced r rest
  rw [first, replaceRow_taken layout taken]
  rfl

theorem runUpdate_free (layout : t.layout = entriesLayout)
    (found : w.tables.table? "ENTRIES" = some t) (assigns : m.Assigns changes) (enforced : Bool)
    (free : (t.erase r.key).hasKey m.id = false) (rest : List Row) :
    ∃ balance, Work.runUpdate enforced "ENTRIES" changes w (r :: rest)
      = Work.runUpdate enforced "ENTRIES" changes
          ⟨w.tables.put ((t.erase r.key).insert m.row), balance⟩ rest := by
  obtain ⟨assigned, first⟩ := runUpdate_cons layout found assigns enforced r rest
  obtain ⟨balance, replaced⟩ := replaceRow_free layout free enforced assigned w
  rw [first, replaced]
  exact ⟨balance, rfl⟩

/-- Two rows cannot both become one entry: once the first has, its key is taken. -/
theorem runUpdate_several (layout : t.layout = entriesLayout)
    (found : w.tables.table? "ENTRIES" = some t) (assigns : m.Assigns changes) (enforced : Bool)
    (second : r' ∈ t.rows) (apart : r'.key ≠ r.key) (rest : List Row) :
    Work.runUpdate enforced "ENTRIES" changes w (r :: r' :: rest)
      = .error (.duplicateKey "ENTRIES" "ID") := by
  cases free : (t.erase r.key).hasKey m.id with
  | true => exact runUpdate_taken layout found assigns enforced free _
  | false =>
    have other : r'.key ≠ m.id := by
      intro same
      have kept : r' ∈ (t.erase r.key).rows := List.mem_filter.mpr ⟨second, by simpa using apart⟩
      rw [Table.hasKey_iff.mpr ⟨r', kept, same⟩] at free
      cases free
    have inserted : m.row ∈ ((t.erase r.key).insert m.row).rows :=
      (Table.insertSorted_perm m.row _).mem_iff.mpr (List.mem_cons_self ..)
    have kept : m.row ∈ (((t.erase r.key).insert m.row).erase r'.key).rows :=
      List.mem_filter.mpr ⟨inserted, by simpa [row] using other.symm⟩
    obtain ⟨balance, first⟩ := runUpdate_free layout found assigns enforced free (r' :: rest)
    rw [first]
    refine runUpdate_taken (t := (t.erase r.key).insert m.row) layout ?_ assigns enforced ?_ rest
    · exact Tables.table?_put found rfl
    · exact Table.hasKey_iff.mpr ⟨m.row, kept, rfl⟩

/-! ## Statements -/

variable {mode : FilterMode} {p : Predicate} {f : Filter} {u : UnitOfWork} {n : Nat}
  {c : Connection} {layouts : List TableLayout} {world : World}

theorem isOf_declaration : descriptor.IsOf declaration :=
  Declaration.describe_ok describe_declaration

theorem unknownColumn?_eq_none {k : Condition} {values : List Value} {q : Predicate}
    (mirrors : k.Mirrors descriptor.columns mode values q) :
    k.unknownColumn? entriesLayout = none :=
  mirrors.unknownColumn? fun column mem => by
    obtain ⟨place, at_place, _⟩ := hasColumns column mem
    rw [at_place]
    rfl

theorem execute_delete (holds : u.HoldsTable world n c "ENTRIES" t)
    (layout : t.layout = entriesLayout) (are : (world.store.visible c).AreOf layouts)
    (named : (layouts.map TableLayout.name).Nodup)
    (compiled : Filter.ofPredicate descriptor.columns mode p = .ok f)
    (readable : Filter.IsReadable mode p) (low : p.leftNested.height ≤ maxHeight)
    (few : f.parameters.length ≤ maxParameters) :
    ∃ k rows c', k.Mirrors descriptor.columns mode f.parameters p.leftNested ∧
      rows = t.selected false (f.parameters.map Value.received) (some k) ∧
      world.store.execute n (Statement.delete descriptor f).sql
          (Statement.delete descriptor f).parameters
        = (.ok rows.length, world.store.putConnection n c') ∧
      c.GoesOn world.store c' ((world.store.visible c).put
        { t with rows := t.rows.filter fun r => r.key ∉ rows.map Row.key }) := by
  obtain ⟨k, mirrors, reads, needed⟩ := Command.read_delete isOf_declaration table_free columns_free
    compiled readable few
  have read := reads (by rw [mirrors.height]; exact low)
  have given : (Statement.delete descriptor f).parameters = f.parameters := by
    rw [Statement.delete_eq isOf_declaration.columns compiled]
  have names : Command.checkNames (Statement.delete descriptor f).sql t.layout
      (.delete descriptor.table (some k)) = .ok () := by
    simp [Command.checkNames, Command.checkFilter, layout, unknownColumn?_eq_none mirrors]
  let rows := t.selected false (f.parameters.map Value.received) (some k)
  have steps : ∀ (s : Store) (j : Connection), j.enforced = c.enforced →
      (s.visible j).table? "ENTRIES" = some t →
        ∃ journaled, s.step n j (.delete descriptor.table (some k)) f.parameters
          = s.write n j journaled fun w =>
              .ok (Work.runDelete c.enforced "ENTRIES" w rows, rows.length) := by
    intro s j same found
    have table : (s.visible j).table? descriptor.table = some t := found
    simp only [Store.step, table, same, layout]
    exact ⟨_, rfl⟩
  obtain ⟨goes_on, _⟩ := holds.execute_change read rfl names needed.symm steps
  obtain ⟨c', executed, on⟩ := goes_on _ _ rfl
  rw [Work.runDelete_tables are named holds.sees] at on
  rw [given]
  exact ⟨k, rows, c', mirrors, rfl, executed, on⟩

theorem assigns_of_assigned {as : List (ColumnName × Operand)}
    (columns : assigned as = parametersFrom 0 descriptor.columnNames) (m : Entry)
    (values : List Value) :
    m.Assigns (as.map fun (c, o) =>
      (c, o.value ((m.values ++ values).map Value.received))) := by
  have valued := congrArg (List.map fun (name, o) =>
    (name, Operand.value ((m.values ++ values).map Value.received) o)) columns
  rw [assigned, List.map_map] at valued
  rw [Assigns, List.map_map]
  refine valued.trans ?_
  obtain ⟨i, s, d⟩ := m
  cases s <;> rfl

theorem find?_unknown_eq_none {as : List (ColumnName × Operand)}
    (columns : assigned as = parametersFrom 0 descriptor.columnNames) :
    (as.find? fun c => (entriesLayout.place? c.1.name).isNone) = none := by
  refine List.find?_eq_none.mpr fun a mem => ?_
  have name : a.1.name ∈ as.map fun a => a.1.name := List.mem_map_of_mem mem
  have names : descriptor.columnNames = ["ID", "DESCRIPTION", "DATE"] := rfl
  rw [names_of_assigned columns, names] at name
  simp only [List.mem_cons, List.not_mem_nil, or_false] at name
  rcases name with h | h | h
  · simp [h, place_id]
  · simp [h, place_description]
  · simp [h, place_date]

theorem execute_update (m : Entry) (holds : u.HoldsTable world n c "ENTRIES" t)
    (layout : t.layout = entriesLayout)
    (compiled : Filter.ofPredicate descriptor.columns mode p = .ok f)
    (readable : Filter.IsReadable mode p) (low : p.leftNested.height ≤ maxHeight)
    (few : m.values.length + f.parameters.length ≤ maxParameters) :
    ∃ k rows changes statement,
      Statement.update descriptor m.values f = .ok statement ∧ m.Assigns changes ∧
      k.Mirrors descriptor.columns mode (m.values ++ f.parameters) p.leftNested ∧
      rows = t.selected false ((m.values ++ f.parameters).map Value.received) (some k) ∧
      (∀ work, Work.runUpdate c.enforced "ENTRIES" changes
          ⟨world.store.visible c, c.openReferences⟩ rows = .ok work →
        ∃ c', world.store.execute n statement.sql statement.parameters
            = (.ok rows.length, world.store.putConnection n c') ∧
          c.GoesOn world.store c' work.tables) ∧
      ∀ cause, Work.runUpdate c.enforced "ENTRIES" changes
          ⟨world.store.visible c, c.openReferences⟩ rows = .error cause →
        ∃ c', world.store.execute n statement.sql statement.parameters
            = (.error (.failed cause), world.store.putConnection n c') ∧
          c.GoesOn world.store c' (world.store.visible c) := by
  have arity : m.values.length = descriptor.columns.length := rfl
  obtain ⟨k, as, mirrors, columns, reads, needed⟩ := Command.read_update isOf_declaration
    table_free columns_free compiled readable arity few
  have read := reads (by rw [mirrors.height]; exact low)
  have names : Command.checkNames (Statement.updateAll descriptor ++ " WHERE " ++ f.text) t.layout
      (.update descriptor.table as (some k)) = .ok () := by
    simp [Command.checkNames, Command.checkFilter, layout, find?_unknown_eq_none columns,
      unknownColumn?_eq_none mirrors]
  let rows := t.selected false ((m.values ++ f.parameters).map Value.received) (some k)
  let changes := as.map fun (c, o) => (c, o.value ((m.values ++ f.parameters).map Value.received))
  let change (w : Work) : Except Failure (Work × Nat) := do
    return (← Work.runUpdate c.enforced "ENTRIES" changes w rows, rows.length)
  have steps : ∀ (s : Store) (j : Connection), j.enforced = c.enforced →
      (s.visible j).table? "ENTRIES" = some t →
        ∃ journaled, s.step n j (.update descriptor.table as (some k)) (m.values ++ f.parameters)
          = s.write n j journaled change := by
    intro s j same found
    have table : (s.visible j).table? descriptor.table = some t := found
    simp only [Store.step, table, same, layout]
    exact ⟨_, rfl⟩
  have count : (m.values ++ f.parameters).length = (parameterMarkers
      (scan (Statement.updateAll descriptor ++ " WHERE " ++ f.text))).length := by
    rw [List.length_append, needed]
  obtain ⟨goes_on, fails⟩ := holds.execute_change read rfl names count steps
  refine ⟨k, rows, changes, _, Statement.update_eq isOf_declaration.columns compiled rfl,
    assigns_of_assigned columns m f.parameters, mirrors, rfl, fun work ran => ?_,
    fun cause ran => ?_⟩
  · exact goes_on work rows.length (by simp only [change, ran]; rfl)
  · exact fails cause (by simp only [change, ran]; rfl)

/-! ## Entries that were found -/

theorem id_of_ofRow {e : Entry} (read : ofRow ⟨entriesLayout.columnNames, r.values⟩ = .ok e) :
    e.id = r.key := by
  have place : entriesLayout.columnNames.findIdx? (fun c => Schema.sameName c "ID") = some 0 := by
    decide
  have key : readId ⟨entriesLayout.columnNames, r.values⟩ = .ok r.key := by
    simp [readId, ResultRow.value, place, Row.values, ok_bind, pure, Except.pure]
  obtain ⟨id, first, rest⟩ := bind_eq_ok read
  obtain ⟨description, _, rest⟩ := bind_eq_ok rest
  obtain ⟨date, _, rest⟩ := bind_eq_ok rest
  cases Except.ok.inj rest
  exact Except.ok.inj (first.symm.trans key)

theorem ids_of_rows {rows : List Row} {es : List Entry}
    (read : (rows.map fun r => (⟨entriesLayout.columnNames, r.values⟩ : ResultRow)).mapM ofRow
      = .ok es) : es.map Entry.id = rows.map Row.key := by
  rw [mapM_eq_ok_iff, List.map_map] at read
  induction rows generalizing es with
  | nil =>
    cases List.map_eq_nil_iff.mp read.symm
    rfl
  | cons r rest ih =>
    obtain ⟨e, es, rfl, first, others⟩ := List.map_eq_cons_iff.mp read.symm
    rw [List.map_cons, List.map_cons, ih others.symm, id_of_ofRow first.symm]

end Entry

namespace UnitOfWork

variable {u u' : UnitOfWork} {w w' : World} {n : Nat} {c c' : Connection} {name : String}
  {t : Table} {tables : Tables}

theorem SeesTable.tables?_eq (seen : u.SeesTable w n c name t) :
    u.tables? w = some (w.store.visible c) := by
  simp [tables?, seen.opened, seen.connected]

theorem HoldsTable.tables?_goesOn (holds : u.HoldsTable w n c name t)
    (on : c.GoesOn w.store c' tables) (opened : u'.openConnection? = some n)
    (store : w'.store = w.store.putConnection n c') : u'.tables? w' = some tables := by
  have conn := Store.connection?_putConnection_self holds.connected c'
  simp [tables?, opened, store, conn, on.sees]

/-- A unit that has begun in memory is inside its transaction. -/
theorem isInside_of_memory {layouts : List TableLayout} {o : StoreOptions}
    (numbered : w.store.IsNumbered) (are : tables.AreOf layouts)
    (named : (layouts.map TableLayout.name).Nodup)
    (begun : w.beginUnit (.memory tables) o none = (.ok u, w'))
    (found : tables.table? name = some t) : u.IsInside layouts w'.store := by
  obtain ⟨_, n, c, connected, own⟩ := isPrivate_of_memory numbered are named begun
  obtain ⟨_, m, d, holds⟩ := World.beginUnit_memory numbered begun found
  have opened : u.connection = some m := by
    have opened := holds.opened
    rw [openConnection?] at opened
    split at opened
    · exact opened
    · cases opened
  cases Option.some.inj (connected.symm.trans opened)
  cases Option.some.inj (own.connected.symm.trans holds.connected)
  exact ⟨n, c, connected, own, holds.transaction⟩

end UnitOfWork

namespace Entry

/-- Entries that are read from the rows of a table that a predicate selects. -/
structure Found (mode : FilterMode) (t : Table) (p : Predicate) (f : Filter) (es : List Entry) :
    Prop where
  compiled : Filter.compile (some p) descriptor mode = .ok f
  readable : Filter.IsReadable mode p
  low : p.leftNested.height ≤ maxHeight
  few : f.parameters.length ≤ maxParameters
  rows : ∃ k, k.Mirrors descriptor.columns mode f.parameters p.leftNested ∧
    ((t.selected true (f.parameters.map Value.received) (some k)).map fun r =>
      (⟨entriesLayout.columnNames, r.values⟩ : ResultRow)).mapM ofRow = .ok es

namespace Found

variable {mode : FilterMode} {t : Table} {p : Predicate} {f : Filter} {es : List Entry}

/-- Whatever statement carries the predicate selects the rows of the entries. -/
theorem keys (found : Found mode t p f es) (keyed : t.IsKeyed)
    (spares : p.SparesLeastKeyIn mode descriptor.columns t) {k : Condition} {values : List Value}
    (mirrors : k.Mirrors descriptor.columns mode values p.leftNested) (decides : Bool) :
    ((t.selected decides (values.map Value.received) (some k)).map Row.key).Perm
      (es.map Entry.id) := by
  obtain ⟨j, shown, read⟩ := found.rows
  have nested : Filter.ofPredicate descriptor.columns mode p.leftNested = .ok f := by
    rw [Filter.ofPredicate_leftNested]
    exact found.compiled
  have spares' : p.leftNested.SparesLeastKeyIn mode descriptor.columns t := by
    unfold Predicate.SparesLeastKeyIn
    rw [← p.leftNested_regrouped.comparisons]
    exact spares
  rw [ids_of_rows read]
  exact (mirrors.selected_congr shown nested keyed spares' decides true).map Row.key

theorem ids_nodup (found : Found mode t p f es) (keyed : t.IsKeyed) :
    (es.map Entry.id).Nodup := by
  obtain ⟨k, _, read⟩ := found.rows
  rw [ids_of_rows read]
  exact Table.selected_keys_nodup keyed true k

/-- Each entry is read from a row of the table. -/
theorem mem_rows (found : Found mode t p f es) {e : Entry} (mem : e ∈ es) :
    ∃ r ∈ t.rows, ofRow ⟨entriesLayout.columnNames, r.values⟩ = .ok e := by
  obtain ⟨k, _, read⟩ := found.rows
  rw [mapM_eq_ok_iff, List.map_map] at read
  have ok : (.ok e : Except StoreError Entry) ∈ es.map .ok := List.mem_map_of_mem mem
  rw [← read] at ok
  obtain ⟨r, hr, same⟩ := List.mem_map.mp ok
  exact ⟨r, Table.selected_subset true k hr, same⟩

end Found

end Entry

namespace Repository

variable {u : UnitOfWork} {w : World} {n : Nat} {c : Connection} {t : Table} {p : Predicate}
  {f : Filter} {es : List Entry} {layouts : List TableLayout}

theorem found_of_getAll (seen : u.SeesTable w n c "ENTRIES" t) (layout : t.layout = entriesLayout)
    (answered : (getAll entryRecord (some p) u w).answer = .ok es) :
    ∃ f, Entry.Found u.filterMode t p f es := by
  have accepted : entryRecord.declaration.describe = .ok Entry.descriptor :=
    Entry.describe_declaration
  obtain ⟨f, compiled⟩ := compiled_of_getAll accepted answered
  rw [getAll_answer accepted compiled seen.opened, mapError_eq_ok] at answered
  obtain ⟨rows, queried, read⟩ := bind_eq_ok answered
  obtain ⟨readable, low, few⟩ := Store.query_select_ok Entry.isOf_declaration Entry.table_free
    Entry.columns_free compiled queried
  have placed : w.store.HasColumns n Entry.descriptor := by
    intro c' t' conn sees column mem
    cases Option.some.inj (seen.connected.symm.trans conn)
    cases Option.some.inj (seen.sees.symm.trans sees)
    obtain ⟨place, at_place, _⟩ := Entry.hasColumns column mem
    rw [layout, at_place]
    rfl
  obtain ⟨k, mirrors, asked⟩ := Store.query_select Entry.isOf_declaration Entry.table_free
    Entry.columns_free placed compiled readable few
  have table : w.store.tableFor n k.height Entry.descriptor.table = .ok t :=
    seen.tableFor_eq (by rw [mirrors.height]; exact low)
  rw [queried, table] at asked
  cases asked
  refine ⟨f, compiled, readable, low, few, k, mirrors, ?_⟩
  rw [← layout]
  exact read

theorem get_of_getAll (opened : u.openConnection? = some n)
    (answered : (getAll entryRecord (some p) u w).answer = .ok es) :
    (get entryRecord (some p) u w).answer = .ok es.head? := by
  have accepted : entryRecord.declaration.describe = .ok Entry.descriptor :=
    Entry.describe_declaration
  obtain ⟨f, compiled⟩ := compiled_of_getAll accepted answered
  rw [getAll_answer accepted compiled opened, mapError_eq_ok] at answered
  rw [get]
  dsimp only
  rw [select_answer .get accepted compiled opened, answered]
  rfl

/-- A deletion takes away exactly the rows of the entries. -/
theorem delete_found (holds : u.HoldsTable w n c "ENTRIES" t) (layout : t.layout = entriesLayout)
    (are : (w.store.visible c).AreOf layouts) (named : (layouts.map TableLayout.name).Nodup)
    (spares : p.SparesLeastKeyIn u.filterMode Entry.descriptor.columns t)
    (found : Entry.Found u.filterMode t p f es) :
    (delete entryRecord p u w).answer = .ok es.length ∧
      (delete entryRecord p u w).unit.tables? (delete entryRecord p u w).world
        = some ((w.store.visible c).put
            { t with rows := t.rows.filter fun r => r.key ∉ es.map Entry.id }) := by
  have keyed := are.keyed t (Tables.mem_of_table? holds.sees)
  obtain ⟨k, rows, c', mirrors, rfl, executed, on⟩ := Entry.execute_delete holds layout are named
    found.compiled found.readable found.low found.few
  have keys := found.keys keyed spares mirrors false
  let build (d : Descriptor) : Except RepositoryError Statement := do
    return Statement.delete d (← compile (some p) d u.filterMode)
  have built : build Entry.descriptor = .ok (Statement.delete Entry.descriptor f) := by
    simp only [build, compile, found.compiled]
    rfl
  have gives : UnitOfWork.Gives (delete entryRecord p u w) _ u _ :=
    (gives_change entryRecord .delete build Entry.describe_declaration built holds.opened w).1
      _ _ executed
  have opened : (delete entryRecord p u w).unit.openConnection? = some n := by
    rw [gives.unit]
    exact holds.opened
  constructor
  · have size := keys.length_eq
    rw [List.length_map, List.length_map] at size
    rw [gives.answer, size]
  · rw [holds.tables?_goesOn on opened gives.store]
    simp only [keys.mem_iff]

/-- An update of the rows of the entries goes on with what comes of them or, if it fails, with
the tables as they were. -/
theorem update_found (m : Entry) (holds : u.HoldsTable w n c "ENTRIES" t)
    (layout : t.layout = entriesLayout) (keyed : t.IsKeyed)
    (spares : p.SparesLeastKeyIn u.filterMode Entry.descriptor.columns t)
    (found : Entry.Found u.filterMode t p f es)
    (few : m.values.length + f.parameters.length ≤ maxParameters) :
    ∃ rows changes, m.Assigns changes ∧ (rows.map Row.key).Perm (es.map Entry.id) ∧
      rows ⊆ t.rows ∧
      (∀ work, Work.runUpdate c.enforced "ENTRIES" changes
          ⟨w.store.visible c, c.openReferences⟩ rows = .ok work →
        (update entryRecord m p u w).answer = .ok rows.length ∧
          (update entryRecord m p u w).unit.tables? (update entryRecord m p u w).world
            = some work.tables) ∧
      ∀ cause, Work.runUpdate c.enforced "ENTRIES" changes
          ⟨w.store.visible c, c.openReferences⟩ rows = .error cause →
        (∃ failed, (update entryRecord m p u w).answer = .error (.execution failed)) ∧
          (update entryRecord m p u w).unit.tables? (update entryRecord m p u w).world
            = some (w.store.visible c) ∧
          (update entryRecord m p u w).unit.failure ≠ none := by
  obtain ⟨k, rows, changes, statement, made, assigns, mirrors, rfl, ok, error⟩ :=
    Entry.execute_update m holds layout found.compiled found.readable found.low few
  let build (d : Descriptor) : Except RepositoryError Statement := do
    let filter ← compile (some p) d u.filterMode
    (Statement.update d (entryRecord.values m) filter).mapError .statement
  have built : build Entry.descriptor = .ok statement := by
    simp only [build, compile, found.compiled]
    exact (mapError_eq_ok (f := RepositoryError.statement)).mpr made
  obtain ⟨gives, refuses⟩ :=
    gives_change entryRecord .update build Entry.describe_declaration built holds.opened w
  refine ⟨_, changes, assigns, found.keys keyed spares mirrors false,
    Table.selected_subset false k, fun work ran => ?_, fun cause ran => ?_⟩
  · obtain ⟨c', executed, on⟩ := ok work ran
    obtain ⟨answer, unit, store⟩ := gives _ _ executed
    have opened : (update entryRecord m p u w).unit.openConnection? = some n :=
      (congrArg UnitOfWork.openConnection? unit).trans holds.opened
    exact ⟨answer, holds.tables?_goesOn on opened store⟩
  · obtain ⟨c', executed, on⟩ := error cause ran
    obtain ⟨failed, answer, unit, store⟩ := refuses _ _ executed
    have opened : (update entryRecord m p u w).unit.openConnection? = some n :=
      (congrArg UnitOfWork.openConnection? unit).trans holds.opened
    refine ⟨⟨failed, answer⟩, holds.tables?_goesOn on opened store, ?_⟩
    intro clean
    have remembered := (congrArg UnitOfWork.failure unit).symm.trans clean
    cases before : u.failure <;> simp [before] at remembered

/-- One row is replaced if no other has the key of the entry that comes. Else nothing changes:
either nothing was found, or the update fails. -/
theorem update_of_found (m : Entry) (holds : u.HoldsTable w n c "ENTRIES" t)
    (layout : t.layout = entriesLayout) (keyed : t.IsKeyed)
    (spares : p.SparesLeastKeyIn u.filterMode Entry.descriptor.columns t)
    (found : Entry.Found u.filterMode t p f es)
    (few : m.values.length + f.parameters.length ≤ maxParameters) :
    (es = [] → (update entryRecord m p u w).answer = .ok 0 ∧
      (update entryRecord m p u w).unit.tables? (update entryRecord m p u w).world
        = some (w.store.visible c)) ∧
    (∀ e, es = [e] → (∀ r ∈ t.rows, r.key = m.id → r.key = e.id) →
      (update entryRecord m p u w).answer = .ok 1 ∧
        (update entryRecord m p u w).unit.tables? (update entryRecord m p u w).world
          = some ((w.store.visible c).put ((t.erase e.id).insert m.row))) ∧
    (es ≠ [] → (∀ e, es = [e] → ∃ r ∈ t.rows, r.key = m.id ∧ r.key ≠ e.id) →
      (∃ failed, (update entryRecord m p u w).answer = .error (.execution failed)) ∧
        (update entryRecord m p u w).unit.tables? (update entryRecord m p u w).world
          = some (w.store.visible c) ∧
        (update entryRecord m p u w).unit.failure ≠ none) := by
  obtain ⟨rows, changes, assigns, keys, within, ok, error⟩ :=
    update_found m holds layout keyed spares found few
  have distinct : (rows.map Row.key).Nodup := keys.nodup_iff.mpr (found.ids_nodup keyed)
  have single {e : Entry} (only : es = [e]) : ∃ r, rows = [r] ∧ r.key = e.id := by
    rw [only] at keys
    obtain ⟨r, rest, rfl, key, others⟩ := List.map_eq_cons_iff.mp (List.perm_singleton.mp keys)
    cases List.map_eq_nil_iff.mp others
    exact ⟨r, rfl, key⟩
  refine ⟨?_, ?_, ?_⟩
  · rintro rfl
    cases List.map_eq_nil_iff.mp (List.perm_nil.mp keys)
    exact ok _ rfl
  · intro e only free
    obtain ⟨r, rfl, key⟩ := single only
    have untaken : (t.erase r.key).hasKey m.id = false := by
      refine Bool.eq_false_iff.mpr fun taken => ?_
      obtain ⟨q, mem, same⟩ := Table.hasKey_iff.mp taken
      obtain ⟨row, apart⟩ := List.mem_filter.mp mem
      rw [key, free q row same] at apart
      simp at apart
    obtain ⟨balance, ran⟩ := Entry.runUpdate_free (w := ⟨w.store.visible c, c.openReferences⟩)
      layout holds.sees assigns c.enforced untaken []
    rw [← key]
    exact ok _ ran
  · intro nonempty collides
    cases rows with
    | nil => exact absurd (List.map_eq_nil_iff.mp (List.nil_perm.mp keys)) nonempty
    | cons r rest =>
      cases rest with
      | nil =>
        obtain ⟨e, rest, rfl, key, others⟩ :=
          List.map_eq_cons_iff.mp (List.singleton_perm.mp keys).symm
        cases List.map_eq_nil_iff.mp others
        obtain ⟨q, row, same, apart⟩ := collides e rfl
        have taken : (t.erase r.key).hasKey m.id = true :=
          Table.hasKey_iff.mpr ⟨q, List.mem_filter.mpr ⟨row, by simpa [← key] using apart⟩, same⟩
        exact error _ (Entry.runUpdate_taken layout holds.sees assigns c.enforced taken [])
      | cons r' rest =>
        have apart : r'.key ≠ r.key := fun same =>
          (List.nodup_cons.mp distinct).1 (same ▸ List.mem_cons_self ..)
        have second : r' ∈ t.rows := within (by simp)
        exact error _
          (Entry.runUpdate_several layout holds.sees assigns c.enforced second apart rest)

/-- What a predicate finds in memory is what `get`, `delete` and `update` act on, unless a
statement of the caller's own has ended the transaction; then foreign keys are checked at once. -/
theorem acts_on_found {o : StoreOptions} {w₀ w₁ : World} {u₀ : UnitOfWork}
    {requests : List Request} (numbered : w₀.store.IsNumbered)
    (begun : w₀.beginUnit (.memory emptyTables) o none = (.ok u₀, w₁))
    (reads : ∀ request ∈ requests, request.ReadsAs Command.IsPlain)
    (reached : (askAll requests u₀ w₁).2 = (u, w)) (still : u.state = .ongoing)
    (answered : (getAll entryRecord (some p) u w).answer = .ok es) :
    ∃ ts t, u.tables? w = some ts ∧ ts.table? "ENTRIES" = some t ∧
      (es.map Entry.id).Nodup ∧
      (∀ e ∈ es, ∃ r ∈ t.rows, Entry.ofRow ⟨t.layout.columnNames, r.values⟩ = .ok e) ∧
      (get entryRecord (some p) u w).answer = .ok es.head? ∧
      (p.SparesLeastKeyIn u.filterMode Entry.descriptor.columns t →
        ((delete entryRecord p u w).answer = .ok es.length ∧
          (delete entryRecord p u w).unit.tables? (delete entryRecord p u w).world
            = some (ts.put { t with rows := t.rows.filter fun r => r.key ∉ es.map Entry.id })) ∧
        ∀ m : Entry,
          (∀ f, Filter.compile (some p) Entry.descriptor u.filterMode = .ok f →
            m.values.length + f.parameters.length ≤ maxParameters) →
          (es = [] → (update entryRecord m p u w).answer = .ok 0 ∧
            (update entryRecord m p u w).unit.tables? (update entryRecord m p u w).world
              = some ts) ∧
          (∀ e, es = [e] → (∀ r ∈ t.rows, r.key = m.id → r.key = e.id) →
            (update entryRecord m p u w).answer = .ok 1 ∧
              (update entryRecord m p u w).unit.tables? (update entryRecord m p u w).world
                = some (ts.put ((t.erase e.id).insert m.row))) ∧
          (es ≠ [] → (∀ e, es = [e] → ∃ r ∈ t.rows, r.key = m.id ∧ r.key ≠ e.id) →
            (∃ failed, (update entryRecord m p u w).answer = .error (.execution failed)) ∧
              (update entryRecord m p u w).unit.tables? (update entryRecord m p u w).world
                = some ts ∧
              (update entryRecord m p u w).unit.failure ≠ none)) := by
  have named : ([entriesLayout, linksLayout, itemsLayout].map TableLayout.name).Nodup := by
    decide
  have unit : (askAll requests u₀ w₁).2.1 = u := congrArg Prod.fst reached
  have world : (askAll requests u₀ w₁).2.2 = w := congrArg Prod.snd reached
  have empty : emptyTables.AreOf [entriesLayout, linksLayout, itemsLayout] :=
    ⟨rfl, by simp [emptyTables, Table.IsKeyed]⟩
  have here := UnitOfWork.isInside_of_memory numbered empty named begun
    (show emptyTables.table? "ENTRIES" = some ⟨entriesLayout, []⟩ by decide)
  have inside := here.askAll named
    (fun request mem => (reads request mem).mono fun _ => Command.IsPlain.keepsTransaction)
    (by rw [unit]; exact still)
  rw [unit, world] at inside
  obtain ⟨n, c, connected, own, inside⟩ := inside
  have place : [entriesLayout, linksLayout, itemsLayout].find?
      (fun l => Schema.sameName l.name "ENTRIES") = some entriesLayout := by decide
  obtain ⟨t, sees, layout⟩ := own.sees.exists_table place
  have keyed := own.sees.keyed t (Tables.mem_of_table? sees)
  have seen : u.SeesTable w n c "ENTRIES" t :=
    ⟨UnitOfWork.opened_of_ongoing still connected, own.connected, own.alone, sees⟩
  obtain ⟨f, found⟩ := found_of_getAll seen layout answered
  refine ⟨_, t, seen.tables?_eq, sees, found.ids_nodup keyed, ?_,
    get_of_getAll seen.opened answered, ?_⟩
  · rw [layout]
    exact fun e => found.mem_rows
  · intro spares
    have holds := seen.holdsTable inside own.reliable
    exact ⟨delete_found holds layout own.sees named spares found, fun m few =>
      update_of_found m holds layout keyed spares found (few f found.compiled)⟩

/-- A unit in memory that has been asked for these. -/
def askFresh (requests : List Request) : Option (UnitOfWork × World) :=
  match World.beginUnit (.ofStore (.empty [])) (.memory emptyTables) .default none with
  | (.error _, _) => none
  | (.ok u, w) => some (askAll requests u w).2

def undescribed (id : Int64) : Entry := ⟨id, none, .newYear2024⟩

theorem acts_on_found_second :
    ∃ u w, askFresh [.call (.create entryRecord (undescribed 1)),
        .call (.create entryRecord (undescribed 2))] = some (u, w) ∧
      (getAll entryRecord (some (.compareWith "ID" .gt (.integer 1))) u w).answer
        = .ok [undescribed 2] ∧
      (get entryRecord (some (.compareWith "ID" .gt (.integer 1))) u w).answer
        = .ok (some (undescribed 2)) ∧
      (delete entryRecord (.compareWith "ID" .gt (.integer 1)) u w).answer = .ok 1 ∧
      (update entryRecord { undescribed 2 with description := some "b" }
        (.compareWith "ID" .gt (.integer 1)) u w).answer = .ok 1 := by
  obtain ⟨u₀, w₁, begun, u, w, reached, still, mode, answered⟩ :
      ∃ u₀ w₁, World.beginUnit (.ofStore (.empty [])) (.memory emptyTables) .default none
          = (.ok u₀, w₁) ∧
        ∃ u w, (askAll [.call (.create entryRecord (undescribed 1)),
            .call (.create entryRecord (undescribed 2))] u₀ w₁).2 = (u, w) ∧
          u.state = .ongoing ∧ u.filterMode = .bound ∧
          (getAll entryRecord (some (.compareWith "ID" .gt (.integer 1))) u w).answer.toOption
            = some [undescribed 2] :=
    ⟨_, _, rfl, _, _, rfl, by decide +kernel⟩
  have answered := eq_ok_of_toOption answered
  have numbered : (World.ofStore (.empty [])).store.IsNumbered := nofun
  have compiled : Filter.compile (some (.compareWith "ID" .gt (.integer 1))) Entry.descriptor
      .bound = .ok ⟨"ID > ?", [.integer 1]⟩ := eq_ok_of_toOption (by decide +kernel)
  have reads : ∀ request ∈ ([.call (.create entryRecord (undescribed 1)),
      .call (.create entryRecord (undescribed 2))] : List Request),
      request.ReadsAs Command.IsPlain := by
    intro request mem
    simp only [List.mem_cons, List.not_mem_nil, or_false] at mem
    rcases mem with rfl | rfl <;> trivial
  obtain ⟨ts, t, _, _, _, _, got, acts⟩ :=
    acts_on_found numbered begun reads reached still answered
  obtain ⟨⟨deleted, _⟩, updates⟩ := acts (by
    intro k mem column x _ _ op
    cases List.mem_singleton.mp mem
    cases op)
  obtain ⟨_, one, _⟩ := updates { undescribed 2 with description := some "b" } (by
    intro f carried
    rw [mode, compiled] at carried
    cases carried
    decide)
  refine ⟨u, w, ?_, answered, got, deleted, (one _ rfl fun r _ same => same).1⟩
  rw [askFresh, begun]
  exact congrArg some reached

/-- The caller ends the transaction behind the back of the unit. -/
def linkedThenCommitted : List Request :=
  [.call (.create entryRecord (undescribed 1)),
    .execute .create "T"
      ⟨"INSERT INTO LINKS (ID, ENTRY_ID) VALUES (?, ?)", [.integer 1, .integer 1]⟩,
    .execute .create "T" ⟨"COMMIT;", []⟩]

/-- The least key asked for by its real, and another key that may be looked up beside it. -/
def leastByReal : Predicate :=
  .or (.and (.isNotNull "DATE")
      (.or (.compareWith "ID" .gt (.integer 0)) (.compareWith "ID" .eq (.integer (-2)))))
    (.compareWith "ID" .eq (.real ⟨0xc3e0000000000000⟩))

/-- Without a transaction a linked entry is found, but cannot be deleted. The least key is
found by a walk through the table, and not by its real. -/
theorem acts_on_found_apart :
    (∃ u w, askFresh linkedThenCommitted = some (u, w) ∧ u.state = .ongoing ∧
      (getAll entryRecord (some (.compareWith "ID" .eq (.integer 1))) u w).answer
        = .ok [undescribed 1] ∧
      (delete entryRecord (.compareWith "ID" .eq (.integer 1)) u w).answer ≠ .ok 1) ∧
    ∃ u w, askFresh [.call (.create entryRecord (undescribed Int64.minValue))] = some (u, w) ∧
      u.state = .ongoing ∧
      (getAll entryRecord (some leastByReal) u w).answer = .ok [undescribed Int64.minValue] ∧
      (delete entryRecord leastByReal u w).answer = .ok 0 := by
  constructor
  · obtain ⟨u, w, reached, still, found, kept⟩ :
        ∃ u w, askFresh linkedThenCommitted = some (u, w) ∧ u.state = .ongoing ∧
          (getAll entryRecord (some (.compareWith "ID" .eq (.integer 1))) u w).answer.toOption
            = some [undescribed 1] ∧
          (delete entryRecord (.compareWith "ID" .eq (.integer 1)) u w).answer.toOption = none :=
      ⟨_, _, rfl, by decide +kernel⟩
    refine ⟨u, w, reached, still, eq_ok_of_toOption found, fun deleted => ?_⟩
    rw [deleted] at kept
    cases kept
  · obtain ⟨u, w, reached, still, found, missed⟩ :
        ∃ u w, askFresh [.call (.create entryRecord (undescribed Int64.minValue))] = some (u, w) ∧
          u.state = .ongoing ∧
          (getAll entryRecord (some leastByReal) u w).answer.toOption
            = some [undescribed Int64.minValue] ∧
          (delete entryRecord leastByReal u w).answer.toOption = some 0 :=
      ⟨_, _, rfl, by decide +kernel⟩
    exact ⟨u, w, reached, still, eq_ok_of_toOption found, eq_ok_of_toOption missed⟩

end Repository

end RecordStore
