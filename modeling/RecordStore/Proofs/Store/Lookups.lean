import RecordStore.Proofs.Sql.Operands
import RecordStore.Proofs.Store.Invariants
import RecordStore.Proofs.Store.Rewriting
import RecordStore.Proofs.Store.Selection
import RecordStore.Proofs.Store.Transactions

/-!
What statements look up. A statement is only run after its names have been found, and then it
finds whatever it looks up: tables, columns, parameters and the values of rows.
-/
namespace RecordStore

open Sql

/-! ## Names -/

namespace Sql

def Condition.columns : Condition → List ColumnName
  | .test q => [q.column]
  | .and l r | .or l r => l.columns ++ r.columns

/-- The columns that a command names, in its condition and before it. -/
def Command.columns : Command → List ColumnName
  | .select columns _ filter => columns.getD [] ++ filter.elim [] Condition.columns
  | .insert _ columns _ => columns
  | .update _ assignments filter =>
    assignments.map Prod.fst ++ filter.elim [] Condition.columns
  | .delete _ filter => filter.elim [] Condition.columns
  | _ => []

/-- The table has all of the columns. -/
def Placed (t : TableLayout) (columns : List ColumnName) : Prop :=
  ∀ column ∈ columns, (t.place? column.name).isSome = true

variable {sql : String} {t : TableLayout} {filter : Option Condition}

theorem Condition.placed {c : Condition} (known : c.unknownColumn? t = none) :
    Placed t c.columns := by
  induction c with
  | test q =>
    simp only [unknownColumn?, ite_eq_left_iff, reduceCtorEq, imp_false, not_not] at known
    exact List.forall_mem_singleton.mpr known
  | and l r left right | or l r left right =>
    simp only [unknownColumn?, Option.or_eq_none_iff] at known
    exact List.forall_mem_append.mpr ⟨left known.1, right known.2⟩

namespace Command

theorem placed_of_checkFilter (checked : checkFilter sql t filter = .ok ()) :
    Placed t (filter.elim [] Condition.columns) := by
  cases filter with
  | none => exact nofun
  | some c =>
    unfold checkFilter at checked
    split at checked
    · rename_i known
      exact Condition.placed known
    · cases checked

theorem placed_of_checkColumns {columns : List ColumnName}
    (checked : columns.forM (checkColumn sql t) = .ok ()) : Placed t columns := by
  induction columns with
  | nil => exact nofun
  | cons column rest ih =>
    obtain ⟨_, first, others⟩ := bind_eq_ok checked
    refine List.forall_mem_cons.mpr ⟨?_, ih others⟩
    unfold checkColumn at first
    split at first
    · rename_i known
      exact known
    · cases first

theorem placed_of_find? {α : Type} (column : α → ColumnName) {as : List α}
    (found : (as.find? fun a => (t.place? (column a).name).isNone) = none) :
    Placed t (as.map column) := by
  refine List.forall_mem_map.mpr fun a mem => ?_
  have known := List.find?_eq_none.mp found a mem
  rwa [Bool.not_eq_true, Option.isNone_eq_false_iff] at known

theorem placed_of_checkNames {command : Command} (checked : command.checkNames sql t = .ok ()) :
    Placed t command.columns := by
  cases command with
  | select columns name filter =>
    obtain ⟨_, listed, filtered⟩ := bind_eq_ok checked
    exact List.forall_mem_append.mpr
      ⟨placed_of_checkColumns listed, placed_of_checkFilter filtered⟩
  | insert name columns values =>
    simp only [checkNames] at checked
    split at checked
    · cases checked
    · rename_i known
      have placed := placed_of_find? id (Option.eq_none_iff_forall_ne_some.mpr known)
      rwa [List.map_id] at placed
  | update name assignments filter =>
    simp only [checkNames] at checked
    split at checked
    · cases checked
    · rename_i known
      refine List.forall_mem_append.mpr ⟨?_, placed_of_checkFilter checked⟩
      exact placed_of_find? Prod.fst (Option.eq_none_iff_forall_ne_some.mpr known)
  | delete name filter => exact placed_of_checkFilter checked
  | begin | commit | rollback | limitPages | nothing => exact nofun

end Command

end Sql

/-! ## What is looked up -/

/-- The row has a value of its own at the place. -/
def Row.HasValueAt (r : Row) : ColumnPlace → Prop
  | .key => True
  | .cell i => i < r.cells.length

/-- What a command looks up is there: its table, the columns that it names with a value in each
row, and a parameter for each placeholder. -/
structure Sql.Command.Finds (command : Command) (tables : Tables) (parameters : List Value) :
    Prop where
  table : ∀ name, command.table? = some name → ∃ t, tables.table? name = some t ∧
    ∀ column ∈ command.columns, ∃ place, t.layout.place? column.name = some place ∧
      ∀ r ∈ t.rows, r.HasValueAt place
  parameter : ∀ place, .parameter place ∈ command.operands → place < parameters.length

theorem Table.IsWhole.hasValueAt {t : Table} (whole : t.IsWhole) {name : String}
    {place : ColumnPlace} (found : t.layout.place? name = some place) :
    ∀ r ∈ t.rows, r.HasValueAt place := by
  intro r mem
  cases place with
  | key => trivial
  | cell i =>
    have inside := TableLayout.mem_places_cell.mp (TableLayout.sameName_nameAt found).1
    exact Nat.lt_of_lt_of_eq inside (whole r mem).symm

/-- Each row of the reply has as many values as there are columns. -/
def Reply.IsLevel : Reply → Prop
  | .rows columns lines => ∀ values ∈ lines, values.length = columns.length
  | .done _ => True

theorem ResultRow.getElem?_of_value {row : ResultRow}
    (level : row.values.length = row.columns.length) {name : String} {i : Nat} {v : Value}
    (found : row.value name = .ok (i, v)) : row.values[i]? = some v := by
  unfold value at found
  split at found
  · cases found
  · rename_i here
    cases found
    have inside := (List.findIdx?_eq_some_iff_findIdx_eq.mp here).1
    rw [List.getElem?_eq_getElem (level ▸ inside)]
    rfl

namespace Store

variable {s s' : Store} {n : Nat} {c c' : Connection} {sql : String} {command : Command}
  {parameters : List Value}

theorem prepare_ok (prepared : s.prepare n c sql = (.ok command, c')) :
    Command.read (scan sql) = .ok command ∧ ∀ name, command.table? = some name →
      ∃ t, (s.visible c).table? name = some t ∧ Placed t.layout command.columns := by
  unfold prepare at prepared
  split at prepared
  · cases prepared
  rename_i read
  split at prepared
  · rename_i unnamed
    cases prepared
    refine ⟨read, fun name named => ?_⟩
    cases unnamed.symm.trans named
  rename_i name named
  split at prepared
  · cases prepared
  dsimp only at prepared
  split at prepared
  · cases prepared
  rename_i t found
  cases checked : Command.checkNames sql t.layout _ with
  | error e =>
    rw [checked] at prepared
    cases prepared
  | ok _ =>
    rw [checked] at prepared
    cases prepared
    refine ⟨read, fun other named' => ⟨t, ?_, Command.placed_of_checkNames checked⟩⟩
    cases named.symm.trans named'
    exact found

theorem finds_of_prepare (whole : (s.visible c).AreWhole)
    (prepared : s.prepare n c sql = (.ok command, c'))
    (given : parameters.length = (parameterMarkers (scan sql)).length) :
    command.Finds (s.visible c') parameters := by
  have stays := s.stays_prepare n c sql
  rw [prepared] at stays
  obtain ⟨read, names⟩ := prepare_ok prepared
  constructor
  · intro name named
    obtain ⟨t, found, placed⟩ := names name named
    rw [visible_eq s stays.file stays.work]
    refine ⟨t, found, fun column mem => ?_⟩
    obtain ⟨place, here⟩ := Option.isSome_iff_exists.mp (placed column mem)
    exact ⟨place, here, (whole t (Tables.mem_of_table? found)).hasValueAt here⟩
  · intro place mem
    exact given ▸ place_lt_of_read read mem

/-! ## Rows of replies -/

theorem level_complete {w : Work} {count : Nat} {reply : Reply}
    (replied : (s.complete n c w count).1 = .ok reply) : reply.IsLevel := by
  unfold complete at replied
  split at replied
  · cases replied
    trivial
  split at replied
  · cases replied
  split at replied
  · cases replied
  split at replied
  · cases replied
  · cases replied
    trivial

theorem level_write {journaled : Bool} {change : Work → Except Failure (Work × Nat)}
    {reply : Reply} (replied : (s.write n c journaled change).1 = .ok reply) :
    reply.IsLevel := by
  unfold write at replied
  split at replied
  · cases replied
  split at replied
  · cases replied
  split at replied
  · split at replied
    · cases replied
    · cases replied
  · exact level_complete replied

theorem level_readRows {columns : Option (List ColumnName)} {t : Table} (whole : t.IsWhole)
    {filter : Option Condition} {reply : Reply}
    (replied : (s.readRows n c columns t parameters filter).1 = .ok reply) : reply.IsLevel := by
  unfold readRows at replied
  split at replied
  · cases replied
  cases columns with
  | none =>
    cases replied
    refine List.forall_mem_map.mpr fun r mem => ?_
    have full := whole r (Table.selected_rows_subset true filter mem)
    simp [Row.values, TableLayout.columnNames, full]
  | some names =>
    cases replied
    exact List.forall_mem_map.mpr fun r _ => by simp

theorem level_step (whole : (s.visible c).AreWhole) {reply : Reply}
    (replied : (s.step n c command parameters).1 = .ok reply) : reply.IsLevel := by
  cases command with
  | select columns name filter =>
    dsimp only [step] at replied
    split at replied
    · cases replied
    · rename_i t found
      exact level_readRows (whole t (Tables.mem_of_table? found)) replied
  | insert | update | delete =>
    dsimp only [step] at replied
    split at replied
    · cases replied
    · exact level_write replied
  | begin mode =>
    rw [step, begin_eq] at replied
    split at replied
    · cases replied
    split at replied
    · cases replied
    · cases replied
      trivial
  | commit =>
    dsimp only [step, commit] at replied
    split at replied
    · cases replied
    split at replied
    · cases replied
    split at replied
    · cases replied
      trivial
    split at replied
    · split at replied
      · cases replied
      · cases replied
        trivial
    · cases replied
  | rollback =>
    dsimp only [step, rollback] at replied
    split at replied
    · cases replied
    · cases replied
      trivial
  | limitPages limit =>
    dsimp only [step, limitPages] at replied
    split at replied
    · cases replied
    split at replied
    · cases replied
    · cases replied
      exact List.forall_mem_singleton.mpr rfl
  | nothing => cases replied

theorem level_run (holds : s.Holds Tables.AreWhole) {reply : Reply}
    (replied : (s.run n sql parameters).1 = .ok reply) : reply.IsLevel := by
  cases conn : s.connection? n with
  | none =>
    rw [run, conn] at replied
    cases replied
  | some c =>
    have stays := s.stays_prepare n c sql
    rw [run, conn] at replied
    dsimp only at replied
    split at replied
    · cases replied
    split at replied
    · cases replied
    refine level_step ?_ (mapError_eq_ok.mp replied)
    rw [visible_putConnection, visible_eq s stays.file stays.work]
    exact holds.visible Tables.areWhole_nil conn

/-- A row of a reply has the value that is looked up under a name. -/
theorem getElem?_of_query (holds : s.Holds Tables.AreWhole) {rows : List ResultRow}
    (queried : (s.query n sql parameters).1 = .ok rows) {row : ResultRow} (mem : row ∈ rows)
    {name : String} {i : Nat} {v : Value} (found : row.value name = .ok (i, v)) :
    row.values[i]? = some v := by
  rw [query_eq] at queried
  obtain ⟨reply, ran, done⟩ := bind_eq_ok queried
  have level := level_run holds ran
  cases done
  cases reply with
  | done count => cases mem
  | rows columns lines =>
    obtain ⟨values, hv, rfl⟩ := List.mem_map.mp mem
    exact ResultRow.getElem?_of_value (level values hv) found

end Store

end RecordStore
