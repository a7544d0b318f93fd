import RecordStore.Proofs.Opening
import RecordStore.Proofs.Session.EarlyErrors
import RecordStore.Proofs.Store.Invariants

/-!
Invariants of the engine in sessions. Whatever units are begun, asked, ended or lost, the store
only ever opens, runs and closes, so it keeps what the engine keeps.
-/
namespace RecordStore

open Sql

def Location.Brings (P : Tables → Prop) : Location → Prop
  | .memory tables => P tables
  | .file _ => True

/-- The tables that are brought have the one property, and whoever works on the store elsewhere
keeps the other. -/
def Action.Keeps (P : Tables → Prop) (I : Store → Prop) : Action → Prop
  | begin _ l _ _ => l.Brings P
  | elsewhere act => ∀ s, I s → I (act s).2
  | _ => True

namespace Store.Steady

variable {I : Store → Prop} {β : Type} {w : World} {u : UnitOfWork}

/-! ## Requests -/

theorem reply (holds : I w.store) (operation : Operation) (entity : String)
    {ask : Store → Nat → Except StoreError β × Store} (asks : ∀ n, I (ask w.store n).2) :
    I (u.reply operation entity ask w.store).2 := by
  rw [UnitOfWork.reply]
  cases u.openConnection? with
  | none => exact holds
  | some n => exact asks n

theorem call (steady : Store.Steady I) (holds : I w.store) (call : Call)
    (u : UnitOfWork) : I (call.run u w).world.store := by
  have store : (call.run u w).world.store = (call.reply u w.store).2 :=
    congrArg Prod.snd (call.outcome_run u w)
  rw [store, Call.reply]
  cases call.prepare u.filterMode with
  | error e => exact holds
  | ok both =>
    refine reply holds _ _ fun n => ?_
    cases call with
    | getAll | get | create | update | delete => exact steady.run holds n _ _

theorem rollbackQuietly (steady : Store.Steady I) (holds : I w.store) (n : Nat) :
    I (UnitOfWork.rollbackQuietly w n).store := by
  have ended := steady.runCommand holds n .rollback
  rw [UnitOfWork.rollbackQuietly]
  split
  · revert ended
    rcases w.store.runCommand n .rollback with ⟨_ | _, s⟩
    · exact id
    · exact id
  · exact holds

theorem rollback (steady : Store.Steady I) (holds : I w.store) (u : UnitOfWork) :
    I (u.rollback w).world.store := by
  rw [UnitOfWork.rollback]
  cases u.openConnection? with
  | none => exact holds
  | some n =>
    have ended := steady.runCommand holds n .rollback
    dsimp only
    revert ended
    rcases w.store.runCommand n .rollback with ⟨_ | _, s⟩
    · exact id
    · exact id

theorem commit (steady : Store.Steady I) (holds : I w.store) (u : UnitOfWork) :
    I (u.commit w).world.store := by
  rw [UnitOfWork.commit]
  cases u.openConnection? with
  | none => exact holds
  | some n =>
    cases u.failure with
    | some failed => exact steady.rollbackQuietly holds n
    | none =>
      have ended := steady.runCommand holds n .commit
      dsimp only
      revert ended
      rcases w.store.runCommand n .commit with ⟨_ | _, s⟩
      · exact fun ended => steady.rollbackQuietly (w := { w with store := s }) ended n
      · exact id

theorem request (steady : Store.Steady I) (holds : I w.store) {request : Request}
    (goes_on : request ≠ .dispose) (u : UnitOfWork) : I (request.run u w).world.store := by
  cases request with
  | call c => exact steady.call holds c u
  | execute operation entity statement =>
    have store : (u.execute w operation entity statement).world.store
        = (u.reply operation entity statement.apply w.store).2 :=
      congrArg Prod.snd (UnitOfWork.outcome_execute operation entity statement)
    rw [Request.run, store]
    exact reply holds operation entity fun n => steady.run holds n _ _
  | query operation entity ofRow statement =>
    have store : (u.query w operation entity ofRow statement).world.store
        = (u.reply operation entity (statement.read ofRow) w.store).2 :=
      congrArg Prod.snd (UnitOfWork.outcome_query operation entity ofRow statement)
    rw [Request.run, store]
    exact reply holds operation entity fun n => steady.run holds n _ _
  | commit => exact steady.commit holds u
  | rollback => exact steady.rollback holds u
  | dispose => exact absurd rfl goes_on

end Store.Steady

namespace Store.Invariant

variable {P : Tables → Prop} {I : Store → Prop} {w : World} {s : Session}

/-! ## Beginnings -/

theorem connectTo (invariant : Store.Invariant P I) (holds : I w.store) {l : Location}
    (brings : l.Brings P) {o : StoreOptions} {n : Nat} {s : Store}
    (connected : World.connect w.store l o = .ok (n, s)) : I s := by
  cases l with
  | memory tables =>
    cases connected
    exact invariant.openPrivate holds brings o.foreignKeys
  | file path => exact invariant.openPath holds connected

theorem openDatabase (invariant : Store.Invariant P I) (holds : I w.store) {l : Location}
    (brings : l.Brings P) (o : StoreOptions) : I (w.openDatabase l o).2.store := by
  rcases w.openDatabase_cases l o with
    ⟨e, w₁, opened, same | ⟨n, s, connected, same⟩⟩ | ⟨n, s, w₁, opened, connected, _, same⟩
  · rw [opened, same]
    exact holds
  · rw [opened, same]
    exact invariant.close s n (invariant.connectTo holds brings connected)
  · rw [opened, same]
    exact invariant.connectTo holds brings connected

theorem prepareConnection (invariant : Store.Invariant P I) (holds : I w.store) (n : Nat)
    (before : Option String) : I (w.prepareConnection n before).2.store := by
  cases before with
  | none => exact holds
  | some sql =>
    have ran := invariant.runBatch holds n sql
    rw [World.prepareConnection]
    revert ran
    rcases w.store.runBatch n sql with ⟨_ | _, s⟩
    · exact invariant.close s n
    · exact id

theorem beginOn (invariant : Store.Invariant P I) (holds : I w.store) (n : Nat)
    (o : StoreOptions) : I (UnitOfWork.begin w n o).2.store := by
  have ran := invariant.runCommand holds n (.begin o.transactionMode)
  rw [UnitOfWork.begin]
  revert ran
  rcases w.store.runCommand n (.begin o.transactionMode) with ⟨_ | _, s⟩
  · exact invariant.close s n
  · exact id

theorem beginUnit (invariant : Store.Invariant P I) (holds : I w.store) {l : Location}
    (brings : l.Brings P) (o : StoreOptions) (before : Option String) :
    I (w.beginUnit l o before).2.store := by
  have opened := invariant.openDatabase holds brings o
  rw [World.beginUnit]
  revert opened
  rcases w.openDatabase l o with ⟨_ | n, w₁⟩
  · exact id
  · intro opened
    have prepared := invariant.prepareConnection opened n before
    dsimp only
    revert prepared
    rcases w₁.prepareConnection n before with ⟨_ | _, w₂⟩
    · exact id
    · exact fun prepared => invariant.beginOn prepared n o

/-! ## Requests -/

theorem dispose (invariant : Store.Invariant P I) (holds : I w.store) (u : UnitOfWork) :
    I (u.dispose w).2.store := by
  rw [UnitOfWork.dispose]
  cases u.connection with
  | none => exact holds
  | some n =>
    dsimp only
    split
    · exact invariant.close _ n (invariant.rollbackQuietly holds n)
    · exact invariant.close _ n holds

theorem request (invariant : Store.Invariant P I) (holds : I w.store) (request : Request)
    (u : UnitOfWork) : I (request.run u w).world.store := by
  by_cases last : request = .dispose
  · subst last
    exact invariant.dispose holds u
  · exact invariant.toSteady.request holds last u

/-! ## Sessions -/

theorem drop (invariant : Store.Invariant P I) (holds : I s.world.store) (name : String) :
    I (s.drop name).2.world.store := by
  rw [Session.drop]
  cases s.unit? name with
  | none => exact holds
  | some u => exact invariant.dispose holds u

theorem action (invariant : Store.Invariant P I) (holds : I s.world.store) {action : Action}
    (keeps : action.Keeps P I) : I (action.run s).2.world.store := by
  cases action with
  | begin name l o before =>
    have begun := invariant.beginUnit holds keeps o before
    simp only [Action.run, Session.begin]
    revert begun
    rcases s.world.beginUnit l o before with ⟨_ | u, w⟩
    · exact id
    · exact fun begun => invariant.drop (s := { s with world := w }) begun name
  | ask name request =>
    cases found : s.unit? name with
    | none =>
      rw [Action.run_ask_none found]
      exact holds
    | some u =>
      rw [Action.run_ask_some found]
      exact invariant.request holds request u
  | drop name => exact invariant.drop holds name
  | elsewhere act => exact keeps _ holds

/-- A session of any actions leaves what the engine keeps. -/
theorem perform (invariant : Store.Invariant P I) (holds : I s.world.store)
    {actions : List Action} (keeps : ∀ action ∈ actions, action.Keeps P I) :
    I (perform actions s).2.world.store := by
  induction actions generalizing s with
  | nil => exact holds
  | cons action rest ih =>
    obtain ⟨first, others⟩ := List.forall_mem_cons.mp keeps
    exact ih (invariant.action holds first) others

end Store.Invariant

end RecordStore
