import RecordStore.Proofs.Session.InMemory
import RecordStore.Proofs.Session.Persistence
import RecordStore.Proofs.Session.Runs

/-!
What the steps of units on one file make of its store. A call runs statements in the transaction
of its unit, and only a commit changes what is committed.
-/
namespace RecordStore

open Sql

def Store.begunOn (s : Store) (file : Nat) (o : StoreOptions) : Store :=
  (s.connect file o.foreignKeys).2.putConnection s.nextConnection
    ((Connection.fresh file o.foreignKeys).begun (s.committed file) o.transactionMode)

namespace Session

/-- The unit of the name is open, and its connection is in a transaction on the file, whose medium
takes everything. -/
structure HasOpen (file : Nat) (s : Session) (name : String) (u : UnitOfWork) (n : Nat)
    (c : Connection) : Prop where
  unit : s.unit? name = some u
  opened : u.openConnection? = some n
  conn : s.world.store.connection? n = some c
  on : c.file = file
  reliable : c.medium = .reliable
  transaction : c.inTransaction = true

inductive Moves (file : Nat) (s : Session) : Step → Store → Prop
  | stays (step : Step) : Moves file s step s.world.store
  | refused (name : String) (o : StoreOptions) :
      Moves file s (.begin name o)
        ((s.world.store.connect file o.foreignKeys).2.close s.world.store.nextConnection)
  | begun (name : String) (o : StoreOptions) :
      Moves file s (.begin name o) (s.world.store.begunOn file o)
  | replaced (name : String) (o : StoreOptions) (m : Nat) :
      Moves file s (.begin name o) ((s.world.store.begunOn file o).close m)
  | called {name : String} {u : UnitOfWork} {n : Nat} {c c' : Connection}
      (here : HasOpen file s name u n c) (call : Call)
      (runs : s.world.store.Runs n (s.world.store.putConnection n c')) :
      Moves file s (.call name call) (s.world.store.putConnection n c')
  | kept {name : String} {u : UnitOfWork} {n : Nat} {c : Connection}
      (here : HasOpen file s name u n c) (may : s.world.store.mayKeep n c = true) :
      Moves file s (.commit name) (s.world.store.keep n c)
  | released {name : String} {u : UnitOfWork} {n : Nat} {c : Connection} (step : Step)
      (here : HasOpen file s name u n c) :
      Moves file s step (s.world.store.putConnection n c.released)
  | closed (step : Step) (n : Nat) : Moves file s step (s.world.store.close n)

variable {path : String} {start : World} {file : Nat} {s : Session}
  {transcript : String → Transcript} {committed : List Transcript} {name : String}
  {u : UnitOfWork}

theorem hasOpen_of_ongoing
    (inv : Serialized path start file s.unit? s.world.store transcript committed)
    (unit : s.unit? name = some u) (ongoing : u.state = .ongoing) :
    ∃ n c, HasOpen file s name u n c := by
  obtain ⟨n, c, connection, conn, on, reliable, transaction⟩ :=
    inv.connection_of_ongoing unit ongoing
  exact ⟨n, c, unit, UnitOfWork.opened_of_ongoing ongoing connection, conn, on, reliable,
    transaction⟩

theorem moves_begin
    (inv : Serialized path start file s.unit? s.world.store transcript committed) (name : String)
    (o : StoreOptions) :
    Moves file s (.begin name o) (s.begin name (.file path) o none).2.world.store := by
  have fresh := inv.unused s.world.store.nextConnection (Nat.le_refl _)
  rcases World.beginUnit_file inv.leads fresh o with
    ⟨e, w, began, same | closed⟩ | ⟨w, timely, began, store⟩
  · rw [begin, began]
    exact same ▸ .stays _
  · rw [begin, began]
    exact closed ▸ .refused name o
  · rw [begin, began]
    have joined := inv.joined o.foreignKeys ((Connection.fresh file o.foreignKeys).begun
      (s.world.store.committed file) o.transactionMode)
    rw [← store] at joined
    rcases store_drop (s := { s with world := w }) joined name with same | ⟨_, m, _, _, closed⟩
    · exact (same.trans store) ▸ .begun name o
    · have left : _ = (s.world.store.begunOn file o).close m :=
        closed.trans (congrArg (Store.close · m) store)
      exact left ▸ .replaced name o m

theorem moves_call
    (inv : Serialized path start file s.unit? s.world.store transcript committed)
    (unit : s.unit? name = some u) (call : Call) :
    Moves file s (.call name call) (call.run u s.world).world.store := by
  by_cases ongoing : u.state = .ongoing
  · obtain ⟨n, c, here⟩ := hasOpen_of_ongoing inv unit ongoing
    have runs := UnitOfWork.runs_of_call (w := s.world) here.opened call
    rcases (UnitOfWork.goesOn_call here.opened here.conn here.transaction call).moved with
      same | ⟨c', moved, _⟩
    · rw [same]
      exact .stays _
    · rw [moved] at runs ⊢
      exact .called here call runs
  · have closed := UnitOfWork.closed_of_not_ongoing ongoing
    obtain ⟨e, gives⟩ := UnitOfWork.gives_closed closed (.call call) (by simp) s.world
    have same : (call.run u s.world).world.store = s.world.store := gives.store
    rw [same]
    exact .stays _

theorem moves_commit
    (inv : Serialized path start file s.unit? s.world.store transcript committed)
    (unit : s.unit? name = some u) :
    Moves file s (.commit name) (u.commit s.world).world.store := by
  by_cases ongoing : u.state = .ongoing
  · obtain ⟨n, c, here⟩ := hasOpen_of_ongoing inv unit ongoing
    rcases UnitOfWork.commit_cases here.opened here.conn here.transaction with
      ⟨⟨_, may⟩, _, _, store⟩ | ⟨_, _, _, _, store⟩
    · rw [store]
      exact .kept here may
    · rw [store]
      exact .released _ here
  · obtain ⟨e, refused⟩ :=
      UnitOfWork.commit_closed (w := s.world) (UnitOfWork.closed_of_not_ongoing ongoing)
    rw [refused]
    exact .stays _

theorem moves_rollback
    (inv : Serialized path start file s.unit? s.world.store transcript committed)
    (unit : s.unit? name = some u) (step : Step) :
    Moves file s step (u.rollback s.world).world.store := by
  by_cases ongoing : u.state = .ongoing
  · obtain ⟨n, c, here⟩ := hasOpen_of_ongoing inv unit ongoing
    rw [(UnitOfWork.rollback_ok here.opened here.conn here.transaction).2]
    exact .released _ here
  · obtain ⟨e, refused⟩ :=
      UnitOfWork.rollback_closed (w := s.world) (UnitOfWork.closed_of_not_ongoing ongoing)
    rw [refused]
    exact .stays _

theorem moves_dispose
    (inv : Serialized path start file s.unit? s.world.store transcript committed)
    (unit : s.unit? name = some u) (step : Step) :
    Moves file s step (u.dispose s.world).2.store := by
  cases connection : u.connection with
  | none =>
    rw [UnitOfWork.dispose_disconnected connection]
    exact .stays _
  | some n =>
    obtain ⟨c, conn, _⟩ := (inv.connected name u unit).stands n connection
    rw [(UnitOfWork.dispose_connected connection conn).2]
    exact .closed _ n

end Session

namespace History

variable {path : String} {start : World} {file : Nat} {h : History}

theorem IsSerialized.moves (inv : h.IsSerialized path start file) (step : Step) :
    h.session.Moves file step (h.step path step).session.world.store := by
  unfold IsSerialized at inv
  cases step with
  | begin name options =>
    have moves := Session.moves_begin inv name options
    rcases began : h.session.begin name (.file path) options none with ⟨_ | _, s⟩
    · simp only [History.step, began]
      rwa [began] at moves
    · simp only [History.step, began]
      rwa [began] at moves
  | call name call =>
    cases found : h.session.unit? name with
    | none =>
      simp only [History.step, Session.act_none found]
      exact .stays _
    | some u =>
      simp only [History.step, Session.act_some found]
      exact Session.moves_call inv found call
  | commit name =>
    cases found : h.session.unit? name with
    | none =>
      simp only [History.step, Session.act_none found]
      exact .stays _
    | some u =>
      have moves := Session.moves_commit inv found
      cases answer : (u.commit h.session.world).answer with
      | ok =>
        simp only [History.step, Session.act_some found, answer]
        exact moves
      | error e =>
        simp only [History.step, Session.act_some found, answer]
        exact moves
  | rollback name =>
    cases found : h.session.unit? name with
    | none =>
      simp only [History.step, Session.act_none found]
      exact .stays _
    | some u =>
      simp only [History.step, Session.act_some found]
      exact Session.moves_rollback inv found _
  | dispose name =>
    cases found : h.session.unit? name with
    | none =>
      simp only [History.step, Session.act_none found]
      exact .stays _
    | some u =>
      simp only [History.step, Session.act_some found]
      exact Session.moves_dispose inv found _
  | drop name =>
    rcases Session.store_drop inv name with same | ⟨_, n, _, _, closed⟩
    · exact same ▸ .stays _
    · exact closed ▸ .closed _ n

end History

end RecordStore
