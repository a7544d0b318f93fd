import RecordStore.Proofs.Outcome
import RecordStore.Repository

/-!
What repository operations answer. The answer depends on the world through its store alone.
-/
namespace RecordStore

namespace World

@[simp] theorem store_log (w : World) (e : Event) : (w.log e).store = w.store := rfl

theorem resolve_store (w : World) (decl : Declaration) : (w.resolve decl).2.store = w.store := by
  unfold resolve
  split
  · rfl
  · split <;> rfl

theorem resolve_answer (w : World) (decl : Declaration) :
    (w.resolve decl).1 = decl.describe.mapError .configuration := by
  unfold resolve
  split
  · rename_i e h
    rw [h]
    rfl
  · rename_i d h
    rw [h]
    split <;> rfl

end World

namespace Repository

variable {α β : Type} {r : RecordType α} {u : UnitOfWork} {w : World} {d : Descriptor}

theorem withStatement_of_error {e : SchemaError} (refused : r.declaration.describe = .error e)
    (build : Descriptor → Except RepositoryError Statement)
    (run : Descriptor → Statement → World → UnitStep β) :
    withStatement r u w build run
      = ⟨.error (.configuration e), u, (w.resolve r.declaration).2⟩ := by
  have answer := w.resolve_answer r.declaration
  rw [refused] at answer
  rw [withStatement, show w.resolve r.declaration = ((w.resolve r.declaration).1, _) from rfl,
    answer]
  rfl

theorem withStatement_of_ok (accepted : r.declaration.describe = .ok d)
    (build : Descriptor → Except RepositoryError Statement)
    (run : Descriptor → Statement → World → UnitStep β) :
    withStatement r u w build run
      = match build d with
        | .error e => ⟨.error e, u, (w.resolve r.declaration).2⟩
        | .ok statement => run d statement (w.resolve r.declaration).2 := by
  have answer := w.resolve_answer r.declaration
  rw [accepted] at answer
  rw [withStatement, show w.resolve r.declaration = ((w.resolve r.declaration).1, _) from rfl,
    answer]
  rfl

@[simp] theorem finish_answer (operation : Operation) (d : Descriptor) (rows : β → Nat)
    (s : UnitStep β) : (finish operation d rows s).answer = s.answer := by
  unfold finish
  split <;> rfl

@[simp] theorem finish_unit (operation : Operation) (d : Descriptor) (rows : β → Nat)
    (s : UnitStep β) : (finish operation d rows s).unit = s.unit := by
  unfold finish
  split <;> rfl

@[simp] theorem finish_store (operation : Operation) (d : Descriptor) (rows : β → Nat)
    (s : UnitStep β) : (finish operation d rows s).world.store = s.world.store := by
  unfold finish
  split <;> rfl

end Repository

namespace UnitOfWork

variable {α : Type} {u : UnitOfWork} {w : World}

theorem observe_answer (u : UnitOfWork) (w : World) (operation : Operation) (entity : String)
    (result : Except StoreError α) :
    (u.observe w operation entity result).answer
      = result.mapError fun e => .execution ⟨operation, entity, e⟩ := by
  cases result <;> rfl

@[simp] theorem observe_store (u : UnitOfWork) (w : World) (operation : Operation)
    (entity : String) (result : Except StoreError α) :
    (u.observe w operation entity result).world.store = w.store := by
  cases result <;> rfl

end UnitOfWork

namespace Repository

variable {α : Type} {r : RecordType α} {u : UnitOfWork} {w : World} {d : Descriptor}

/-- What a filter yields on an open unit: the models of the rows that the store answers. -/
theorem select_answer (operation : Operation) {q : Option Predicate} {f : Filter} {id : Nat}
    (accepted : r.declaration.describe = .ok d)
    (compiled : Filter.compile q d u.filterMode = .ok f)
    (opened : u.openConnection? = some id) :
    (select r operation q u w).answer
      = ((w.store.query id (Statement.select d f).sql (Statement.select d f).parameters).1.bind
          (·.mapM r.ofRow)).mapError fun e => .execution ⟨operation, d.record, e⟩ := by
  have built : (do return Statement.select d (← compile q d u.filterMode)
      : Except RepositoryError Statement) = .ok (Statement.select d f) := by
    rw [compile, compiled]
    rfl
  rw [select, withStatement_of_ok accepted, built]
  simp only [finish_answer, UnitOfWork.query, opened]
  rw [UnitOfWork.observe_answer, World.resolve_store]

theorem getAll_answer {q : Option Predicate} {f : Filter} {id : Nat}
    (accepted : r.declaration.describe = .ok d)
    (compiled : Filter.compile q d u.filterMode = .ok f)
    (opened : u.openConnection? = some id) :
    (getAll r q u w).answer
      = ((w.store.query id (Statement.select d f).sql (Statement.select d f).parameters).1.bind
          (·.mapM r.ofRow)).mapError fun e => .execution ⟨.getAll, d.record, e⟩ :=
  select_answer .getAll accepted compiled opened

/-- A predicate that is answered compiles. -/
theorem compiled_of_getAll {p : Predicate} {models : List α}
    (accepted : r.declaration.describe = .ok d)
    (found : (getAll r (some p) u w).answer = .ok models) :
    ∃ f, Filter.compile (some p) d u.filterMode = .ok f := by
  cases compiled : Filter.compile (some p) d u.filterMode with
  | ok f => exact ⟨f, rfl⟩
  | error e =>
    rw [getAll, select, withStatement_of_ok accepted, compile, compiled] at found
    cases found

theorem getAll_closed {p : Predicate} {f : Filter} (accepted : r.declaration.describe = .ok d)
    (compiled : Filter.compile (some p) d u.filterMode = .ok f)
    (closed : u.openConnection? = none) :
    (getAll r (some p) u w).answer = .error (.notOpen u.state Operation.getAll.name) := by
  have built : (do return Statement.select d (← compile (some p) d u.filterMode)
      : Except RepositoryError Statement) = .ok (Statement.select d f) := by
    rw [compile, compiled]
    rfl
  rw [getAll, select, withStatement_of_ok accepted, built]
  simp only [finish_answer, UnitOfWork.query, closed]
  rfl

theorem getAll_not_compiled {p : Predicate} {e : PredicateError}
    (accepted : r.declaration.describe = .ok d)
    (refused : Filter.compile (some p) d u.filterMode = .error e) :
    (getAll r (some p) u w).answer = .error (.unsupportedPredicate e) := by
  have built : (do return Statement.select d (← compile (some p) d u.filterMode)
      : Except RepositoryError Statement) = .error (.unsupportedPredicate e) := by
    rw [compile, refused]
    rfl
  rw [getAll, select, withStatement_of_ok accepted, built]

theorem getAll_not_accepted {p : Option Predicate} {e : SchemaError}
    (refused : r.declaration.describe = .error e) :
    (getAll r p u w).answer = .error (.configuration e) := by
  rw [getAll, select, withStatement_of_error refused]

end Repository

end RecordStore
