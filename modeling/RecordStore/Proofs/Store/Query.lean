import RecordStore.Proofs.Predicate.Readable
import RecordStore.Proofs.Schema
import RecordStore.Proofs.Store.Connections

/-!
Queries with a filter. Up to the selection itself their outcome does not depend on how the
literals of the filter are written.
-/
namespace RecordStore

open Sql

theorem Sql.Condition.Mirrors.unknownColumn? {columns : List Column} {mode : FilterMode}
    {values : List Value} {c : Condition} {p : Predicate} {t : TableLayout}
    (same : c.Mirrors columns mode values p)
    (placed : ∀ column ∈ columns, (t.place? column.name).isSome = true) :
    c.unknownColumn? t = none := by
  induction same with
  | @test q k mirrors =>
    have known : (t.place? q.column.name).isSome = true := by
      cases mirrors with
      | isNull found name _ _ | isNotNull found name _ _ | compare found name _ _ =>
        rw [Test.column, name]
        exact placed _ (mem_of_column? found)
    simp [Condition.unknownColumn?, known]
  | and _ _ left right | or _ _ left right => simp [Condition.unknownColumn?, left, right]

def Predicate.height : Predicate → Nat
  | .compare _ => 2
  | .and l r | .or l r => max l.height r.height + 1

theorem Sql.Condition.Mirrors.height {columns : List Column} {mode : FilterMode}
    {values : List Value} {c : Condition} {p : Predicate}
    (same : c.Mirrors columns mode values p) : c.height = p.height := by
  induction same with
  | test _ => rfl
  | and _ _ left right | or _ _ left right =>
    rw [Condition.height, Predicate.height, left, right]

namespace Store

def tableFor (s : Store) (id : Nat) (height : Nat) (name : String) : Except Failure Table :=
  match s.connection? id with
  | none => .error .nothingToRun
  | some c =>
    if maxHeight < height then .error .conditionTooHigh
    else if !c.knowsTables && !s.mayRead id c then .error .locked
    else
      match (s.visible c).table? name with
      | none => .error (.noSuchTable name)
      | some t => if s.mayRead id c then .ok t else .error .locked

def rowsOf (parameters : List Value) (c : Condition) (t : Table) : List ResultRow :=
  (t.selected true (parameters.map Value.received) (some c)).map fun r =>
    ⟨t.layout.columnNames, r.values⟩

variable {s : Store} {id : Nat} {d : Descriptor} {mode : FilterMode} {p : Predicate} {f : Filter}

def HasColumns (s : Store) (id : Nat) (d : Descriptor) : Prop :=
  ∀ c t, s.connection? id = some c → (s.visible c).table? d.table = some t →
    ∀ column ∈ d.columns, (t.layout.place? column.name).isSome = true

theorem query_select {decl : Declaration} (accepted : d.IsOf decl)
    (freeTable : isKeyword d.table = false)
    (free : ∀ c ∈ d.columns, isReserved c.name = false)
    (placed : s.HasColumns id d)
    (compiled : Filter.ofPredicate d.columns mode p = .ok f)
    (readable : Filter.IsReadable mode p) (few : f.parameters.length ≤ maxParameters) :
    ∃ c, c.Mirrors d.columns mode f.parameters p.leftNested ∧
      (s.query id (Statement.select d f).sql (Statement.select d f).parameters).1
        = ((s.tableFor id c.height d.table).map (rowsOf f.parameters c)).mapError .failed := by
  obtain ⟨c, mirrors, _, reads, needed⟩ := Command.read_select accepted.table freeTable
    accepted.columns free compiled readable
  have read := reads few
  refine ⟨c, mirrors, ?_⟩
  have given : (Statement.select d f).parameters = f.parameters := by
    rw [Statement.select_eq accepted.columns compiled]
  rw [given]
  cases conn : s.connection? id with
  | none => simp [query, run, tableFor, conn, Except.map, mapError_error]
  | some k =>
    by_cases high : maxHeight < c.height
    · simp [query, run, prepare, tableFor, conn, read, high, SyntaxError.toStoreError, Except.map,
        mapError_error]
    have command : Command.read (scan (Statement.select d f).sql)
        = .ok (.select none d.table (some c)) := by rw [read, if_neg high]
    by_cases blocked : (!k.knowsTables && !s.mayRead id k) = true
    · simp only [query, run, prepare, tableFor, conn, command, high, if_false, Command.table?,
        blocked, if_true]
      rfl
    cases found : (s.visible k).table? d.table with
    | none =>
      have known : (s.visible { k with knowsTables := true }).table? d.table = none := found
      simp only [query, run, prepare, tableFor, conn, command, high, if_false, Command.table?,
        blocked, found, known]
      rfl
    | some t =>
      have known : (s.visible { k with knowsTables := true }).table? d.table = some t := found
      have named : Command.checkNames (Statement.select d f).sql t.layout
          (.select none d.table (some c)) = .ok () := by
        have columns := mirrors.unknownColumn? (placed k t conn found)
        simp [Command.checkNames, Command.checkFilter, columns]
      simp only [query, run, prepare, tableFor, conn, command, high, if_false, Command.table?,
        blocked, found, known, named, needed, ne_eq, not_true_eq_false, step,
        visible_putConnection, readRows, mayRead_putConnection, Except.map]
      by_cases reads : s.mayRead id k = true
      · have again : s.mayRead id { k with knowsTables := true } = true := reads
        simp [known, reads, again, asStoreError, mapError_ok, rowsOf, List.map_map]
      · have again : s.mayRead id { k with knowsTables := true } = false :=
          Bool.eq_false_iff.mpr reads
        simp [known, reads, again, asStoreError, mapError_error]

theorem query_not_read (s : Store) (id : Nat) {sql : String} {e : SyntaxError}
    (read : Command.read (scan sql) = .error e) (parameters : List Value) :
    ∃ e, (s.query id sql parameters).1 = .error e := by
  cases conn : s.connection? id with
  | none => exact ⟨_, by simp only [query, run, conn]; rfl⟩
  | some k => exact ⟨_, by simp only [query, run, conn, prepare, read]; rfl⟩

theorem query_select_beyond_limits (s : Store) (id : Nat) {decl : Declaration}
    (accepted : d.IsOf decl) (freeTable : isKeyword d.table = false)
    (free : ∀ c ∈ d.columns, isReserved c.name = false)
    (compiled : Filter.ofPredicate d.columns mode p = .ok f)
    (readable : Filter.IsReadable mode p)
    (beyond : maxHeight < p.leftNested.height ∨ maxParameters < f.parameters.length) :
    ∃ e, (s.query id (Statement.select d f).sql (Statement.select d f).parameters).1
      = .error e := by
  obtain ⟨c, mirrors, refused, reads, _⟩ := Command.read_select accepted.table freeTable
    accepted.columns free compiled readable
  by_cases many : maxParameters < f.parameters.length
  · obtain ⟨e, read, _⟩ := refused many
    exact s.query_not_read id read _
  · have high := beyond.resolve_right many
    have read := reads (Nat.not_lt.mp many)
    rw [mirrors.height, if_pos high] at read
    exact s.query_not_read id read _

/-- A query that is answered has literals that can stand in its text, and is within limits. -/
theorem query_select_ok {decl : Declaration} (accepted : d.IsOf decl)
    (freeTable : isKeyword d.table = false)
    (free : ∀ c ∈ d.columns, isReserved c.name = false)
    (compiled : Filter.ofPredicate d.columns mode p = .ok f) {rows : List ResultRow}
    (answered : (s.query id (Statement.select d f).sql (Statement.select d f).parameters).1
      = .ok rows) :
    Filter.IsReadable mode p ∧ p.leftNested.height ≤ maxHeight ∧
      f.parameters.length ≤ maxParameters := by
  have readable : Filter.IsReadable mode p := by
    refine Classical.byContradiction fun unreadable => ?_
    have ends := Filter.endsQuoted_ofPredicate accepted.columns compiled unreadable
    obtain ⟨e, read⟩ := ends.not_read (isHead_select accepted.table freeTable)
    have text : "SELECT * FROM " ++ d.table ++ " WHERE " ++ f.text
        = (Statement.select d f).sql := by
      rw [Statement.select_eq accepted.columns compiled]
    rw [text] at read
    obtain ⟨e', failed⟩ := s.query_not_read id read (Statement.select d f).parameters
    rw [answered] at failed
    cases failed
  have within : ¬ (maxHeight < p.leftNested.height ∨ maxParameters < f.parameters.length) := by
    intro beyond
    obtain ⟨e, failed⟩ := s.query_select_beyond_limits id accepted freeTable free compiled
      readable beyond
    rw [answered] at failed
    cases failed
  obtain ⟨low, few⟩ := not_or.mp within
  exact ⟨readable, Nat.not_lt.mp low, Nat.not_lt.mp few⟩

end Store

end RecordStore
