import RecordStore.Proofs.Session.History
import RecordStore.Proofs.Session.Replies

/-!
What the process remembers beside the store, the record types already resolved and its log,
decides nothing: units answer and act alike in worlds with the same store.
-/
namespace RecordStore

structure UnitStep.Same {β : Type} (s s' : UnitStep β) : Prop where
  outcome : s.outcome = s'.outcome
  unit : s.unit = s'.unit

theorem UnitStep.Same.answer {β : Type} {s s' : UnitStep β} (same : s.Same s') :
    s.answer = s'.answer := congrArg Prod.fst same.outcome

theorem UnitStep.Same.store {β : Type} {s s' : UnitStep β} (same : s.Same s') :
    s.world.store = s'.world.store := congrArg Prod.snd same.outcome

namespace UnitOfWork

variable {β : Type} {u : UnitOfWork} {w w' : World}

/-- An operation that only remembers leaves the same unit where the outcome is the same. -/
theorem same_of_reply {op : World → UnitStep β} {reply : Store → Except RepositoryError β × Store}
    (remembers : ∀ w, u.Remembers (op w)) (outcome : ∀ w, (op w).outcome = reply w.store)
    (same : w.store = w'.store) : (op w).Same (op w') := by
  have alike : (op w).outcome = (op w').outcome := by rw [outcome, outcome, same]
  have answer : (op w).answer = (op w').answer := congrArg Prod.fst alike
  refine ⟨alike, ?_⟩
  rw [remembers w, remembers w', answer]

theorem rollbackQuietly_same (w w' : World) (same : w.store = w'.store) (n : Nat) :
    (rollbackQuietly w n).store = (rollbackQuietly w' n).store := by
  rw [rollbackQuietly, rollbackQuietly, same]
  cases w'.store.inTransaction n with
  | false => exact same
  | true =>
    rcases w'.store.runCommand n .rollback with ⟨_ | _, s⟩ <;> rfl

theorem commit_same (same : w.store = w'.store) : (u.commit w).Same (u.commit w') := by
  rw [commit, commit]
  cases u.openConnection? with
  | none => exact ⟨Prod.ext rfl same, rfl⟩
  | some n =>
    cases u.failure with
    | some f => exact ⟨Prod.ext rfl (rollbackQuietly_same w w' same n), rfl⟩
    | none =>
      dsimp only
      rw [same]
      rcases w'.store.runCommand n .commit with ⟨_ | _, s⟩
      · have rolled :=
          rollbackQuietly_same { w with store := s } { w' with store := s } rfl n
        exact ⟨Prod.ext rfl rolled, rfl⟩
      · exact ⟨rfl, rfl⟩

theorem rollback_same (same : w.store = w'.store) : (u.rollback w).Same (u.rollback w') := by
  rw [rollback, rollback]
  cases u.openConnection? with
  | none => exact ⟨Prod.ext rfl same, rfl⟩
  | some n =>
    dsimp only
    rw [same]
    rcases w'.store.runCommand n .rollback with ⟨_ | _, s⟩ <;> exact ⟨rfl, rfl⟩

theorem dispose_same (same : w.store = w'.store) :
    (Session.disposing u w).Same (Session.disposing u w') := by
  rw [Session.disposing, Session.disposing, dispose, dispose]
  cases u.connection with
  | none => exact ⟨Prod.ext rfl same, rfl⟩
  | some n =>
    refine ⟨Prod.ext rfl ?_, rfl⟩
    simp only [UnitStep.outcome, World.store_log]
    split
    · rw [rollbackQuietly_same w w' same]
    · rw [same]

end UnitOfWork

theorem Request.run_same (request : Request) (u : UnitOfWork) {w w' : World}
    (same : w.store = w'.store) : (request.run u w).Same (request.run u w') := by
  cases request with
  | call call =>
    exact UnitOfWork.same_of_reply (fun _ => call.remembers u _) (call.outcome_run u) same
  | execute operation entity statement =>
    exact UnitOfWork.same_of_reply
      (fun _ => UnitOfWork.remembers_execute operation entity statement)
      (fun _ => UnitOfWork.outcome_execute operation entity statement) same
  | query operation entity ofRow statement =>
    exact UnitOfWork.same_of_reply
      (fun _ => UnitOfWork.remembers_query operation entity ofRow statement)
      (fun _ => UnitOfWork.outcome_query operation entity ofRow statement) same
  | commit => exact UnitOfWork.commit_same same
  | rollback => exact UnitOfWork.rollback_same same
  | dispose => exact UnitOfWork.dispose_same same

/-! ## Beginnings -/

namespace World

variable {w w' : World}

theorem openDatabase_same (same : w.store = w'.store) (l : Location) (o : StoreOptions) :
    (w.openDatabase l o).1 = (w'.openDatabase l o).1 ∧
      (w.openDatabase l o).2.store = (w'.openDatabase l o).2.store := by
  simp only [openDatabase, store_log, same]
  cases connect w'.store l o with
  | error e => exact ⟨rfl, same⟩
  | ok opened =>
    dsimp only
    split <;> exact ⟨rfl, rfl⟩

theorem prepareConnection_same (same : w.store = w'.store) (n : Nat) (sql : Option String) :
    (w.prepareConnection n sql).1 = (w'.prepareConnection n sql).1 ∧
      (w.prepareConnection n sql).2.store = (w'.prepareConnection n sql).2.store := by
  cases sql with
  | none => exact ⟨rfl, same⟩
  | some sql =>
    simp only [prepareConnection, same]
    rcases w'.store.runBatch n sql with ⟨_ | _, s⟩ <;> exact ⟨rfl, rfl⟩

theorem begin_same (same : w.store = w'.store) (n : Nat) (o : StoreOptions) :
    (UnitOfWork.begin w n o).1 = (UnitOfWork.begin w' n o).1 ∧
      (UnitOfWork.begin w n o).2.store = (UnitOfWork.begin w' n o).2.store := by
  simp only [UnitOfWork.begin, same]
  rcases w'.store.runCommand n (.begin o.transactionMode) with ⟨_ | _, s⟩ <;> exact ⟨rfl, rfl⟩

theorem beginUnit_same (same : w.store = w'.store) (l : Location) (o : StoreOptions)
    (before : Option String) :
    (w.beginUnit l o before).1 = (w'.beginUnit l o before).1 ∧
      (w.beginUnit l o before).2.store = (w'.beginUnit l o before).2.store := by
  obtain ⟨opened, same⟩ := openDatabase_same same l o
  rw [beginUnit, beginUnit]
  generalize w.openDatabase l o = first at opened same
  generalize w'.openDatabase l o = second at opened same
  obtain ⟨answer, w⟩ := first
  obtain ⟨answer', w'⟩ := second
  cases opened
  cases answer with
  | error e => exact ⟨rfl, same⟩
  | ok n =>
    obtain ⟨prepared, same⟩ := prepareConnection_same same n before
    dsimp only
    generalize w.prepareConnection n before = first at prepared same
    generalize w'.prepareConnection n before = second at prepared same
    obtain ⟨answer, w⟩ := first
    obtain ⟨answer', w'⟩ := second
    cases prepared
    cases answer with
    | error e => exact ⟨rfl, same⟩
    | ok _ =>
      obtain ⟨began, same⟩ := begin_same same n o
      exact ⟨congrArg (Except.mapError OpeningError.unit) began, same⟩

end World

/-! ## Sessions -/

/-- The same units under the same names, and the same store. -/
structure Session.Same (s s' : Session) : Prop where
  store : s.world.store = s'.world.store
  units : s.unit? = s'.unit?

namespace Session

variable {s s' : Session}

theorem Same.refl (s : Session) : s.Same s := ⟨rfl, rfl⟩

theorem Same.put (same : s.Same s') (name : String) {u u' : UnitOfWork} {w w' : World}
    (unit : u = u') (store : w.store = w'.store) : (s.put name u w).Same (s'.put name u' w') where
  store := store
  units := by rw [unit?_put, unit?_put, same.units, unit]

theorem Same.drop (same : s.Same s') (name : String) :
    (s.drop name).1 = (s'.drop name).1 ∧ (s.drop name).2.Same (s'.drop name).2 := by
  have answer : (s.drop name).1 = (s'.drop name).1 ∧
      (s.drop name).2.world.store = (s'.drop name).2.world.store := by
    rw [Session.drop, Session.drop, same.units]
    cases s'.unit? name with
    | none => exact ⟨rfl, same.store⟩
    | some u => exact ⟨rfl, (UnitOfWork.dispose_same same.store).store⟩
  refine ⟨answer.1, answer.2, ?_⟩
  rw [unit?_drop, unit?_drop, same.units]

end Session

end RecordStore
