import RecordStore.Proofs.Predicate.Truth
import RecordStore.Proofs.Repository
import RecordStore.Proofs.Store.Query

/-!
What a unit answers to a predicate: the models of the rows that the predicate is true of.
-/
namespace RecordStore

open Sql

namespace UnitOfWork

def table? (u : UnitOfWork) (w : World) (name : String) : Option Table := do
  let id ← u.openConnection?
  let c ← w.store.connection? id
  (w.store.visible c).table? name

end UnitOfWork

theorem Store.tableFor_eq_ok {s : Store} {id height : Nat} {name : String} {t : Table}
    (h : s.tableFor id height name = .ok t) :
    ∃ c, s.connection? id = some c ∧ (s.visible c).table? name = some t := by
  unfold tableFor at h
  split at h
  · cases h
  · rename_i c conn
    split at h
    · cases h
    · split at h
      · cases h
      · split at h
        · cases h
        · rename_i t' found
          split at h
          · cases Except.ok.inj h
            exact ⟨c, conn, found⟩
          · cases h

theorem Filter.isExact_of_reads {columns : List Column} {mode : FilterMode} {p : Predicate}
    {f : Filter} (compiled : ofPredicate columns mode p = .ok f)
    (reads : mode = .inline → ∀ k ∈ p.comparisons, ∀ x, k.value = .real x →
      x.isFinite = true → x.ReadsBack) : IsExact mode p := by
  intro inline k mem x real
  obtain ⟨g, hg⟩ := ofComparison_of_ofPredicate compiled k mem
  obtain ⟨column, _, _, shape⟩ := ofComparison_ok hg
  rcases shape with ⟨null, _⟩ | ⟨null, _⟩ | ⟨_, finite, _⟩
  · rw [real] at null
    cases null
  · rw [real] at null
    cases null
  · rw [real] at finite
    exact reads inline k mem x real finite

/-- What a predicate, a mode and a table have to keep for the store to select the rows that
the predicate is true of. -/
structure Selectable (mode : FilterMode) (d : Descriptor) (p : Predicate) (u : UnitOfWork)
    (w : World) : Prop where
  table_free : isKeyword d.table = false
  columns_free : ∀ c ∈ d.columns, isReserved c.name = false
  placed : ∀ t, u.table? w d.table = some t → t.layout.HasColumns d.columns
  distinct : ∀ t, u.table? w d.table = some t → (t.rows.map Row.key).Nodup
  spares : ∀ t, u.table? w d.table = some t → p.SparesLeastKey d.columns t
  readable : Filter.IsReadable mode p
  reads : mode = .inline → ∀ k ∈ p.comparisons, ∀ x, k.value = .real x → x.isFinite = true →
    x.ReadsBack
  few : ∀ f, Filter.compile (some p) d mode = .ok f → f.parameters.length ≤ maxParameters

namespace Repository

variable {α : Type} {r : RecordType α} {d : Descriptor} {p : Predicate} {u : UnitOfWork}
  {w : World}

/-- The selected rows of an open unit, in terms of the table that it tries the condition on.
They are the rows that the predicate is true of, in some order. -/
theorem getAll_rows {mode : FilterMode} {f : Filter} {id : Nat} (hmode : u.filterMode = mode)
    (accepted : r.declaration.describe = .ok d) (selectable : Selectable mode d p u w)
    (opened : u.openConnection? = some id)
    (compiled : Filter.compile (some p) d mode = .ok f) :
    ∃ rows : Table → List ResultRow,
      (∀ t, w.store.tableFor id p.leftNested.height d.table = .ok t →
        (rows t).Perm ((t.rows.filter fun row => p.truthOn d.columns t.layout row
          == some true).map fun row => ⟨t.layout.columnNames, row.values⟩)) ∧
      (getAll r (some p) u w).answer
        = ((((w.store.tableFor id p.leftNested.height d.table).map rows).mapError
            StoreError.failed).bind (·.mapM r.ofRow)).mapError
              fun e => .execution ⟨.getAll, d.record, e⟩ := by
  subst hmode
  have of := Declaration.describe_ok accepted
  have sees {c : Connection} {t : Table} (conn : w.store.connection? id = some c)
      (found : (w.store.visible c).table? d.table = some t) : u.table? w d.table = some t := by
    simp [UnitOfWork.table?, opened, conn, found]
  have placed : w.store.HasColumns id d := by
    intro c t conn found column mem
    obtain ⟨place, at_place, _⟩ := selectable.placed t (sees conn found) column mem
    rw [at_place]
    rfl
  have nested : Filter.ofPredicate d.columns u.filterMode p.leftNested = .ok f := by
    rw [Filter.ofPredicate_leftNested]
    exact compiled
  have comparisons := p.leftNested_regrouped.comparisons
  obtain ⟨c, mirrors, answer⟩ := Store.query_select of selectable.table_free
    selectable.columns_free placed compiled selectable.readable (selectable.few f compiled)
  refine ⟨Store.rowsOf f.parameters c, fun t ok => ?_, ?_⟩
  · obtain ⟨k, conn, found⟩ := Store.tableFor_eq_ok ok
    have seen := sees conn found
    have reads := Filter.isExact_of_reads compiled selectable.reads
    simp only [p.leftNested_regrouped.truthOn]
    refine (mirrors.selected_perm nested (selectable.placed t seen) (selectable.distinct t seen) ?_
      ?_ true).map _
    · unfold Filter.IsExact
      rw [← comparisons]
      exact reads
    · unfold Predicate.SparesLeastKey
      rw [← comparisons]
      exact selectable.spares t seen
  · rw [getAll_answer accepted compiled opened, answer, mirrors.height]

theorem getAll_beyond_limits {mode : FilterMode} {f : Filter} {id : Nat}
    (hmode : u.filterMode = mode) (accepted : r.declaration.describe = .ok d)
    (freeTable : isKeyword d.table = false)
    (free : ∀ c ∈ d.columns, isReserved c.name = false)
    (readable : Filter.IsReadable mode p) (opened : u.openConnection? = some id)
    (compiled : Filter.compile (some p) d mode = .ok f)
    (beyond : maxHeight < p.leftNested.height ∨ maxParameters < f.parameters.length) :
    ∃ e, (getAll r (some p) u w).answer = .error (.execution ⟨.getAll, d.record, e⟩) := by
  subst hmode
  obtain ⟨e, answer⟩ := w.store.query_select_beyond_limits id (Declaration.describe_ok accepted)
    freeTable free compiled readable beyond
  exact ⟨e, by rw [getAll_answer accepted compiled opened, answer]; rfl⟩

end Repository

end RecordStore
