import RecordStore.Proofs.Session.Steps
import RecordStore.Proofs.Store.Outside

/-!
Runs of units that share a file. After any steps the file holds what the serial execution of
the committed units leaves there, and they got the answers of that execution.
-/
namespace RecordStore

open Sql

variable {path : String} {start : World} {file : Nat}

/-! ## Sessions -/

namespace Session

variable {s : Session} {transcript : String → Transcript} {committed : List Transcript}
  {name : String}

theorem store_drop (inv : Serialized path start file s.unit? s.world.store transcript committed)
    (name : String) :
    (s.drop name).2.world.store = s.world.store ∨
      ∃ u n, s.unit? name = some u ∧ u.connection = some n ∧
        (s.drop name).2.world.store = s.world.store.close n := by
  unfold drop
  cases found : s.unit? name with
  | none => exact .inl rfl
  | some u =>
    cases connection : u.connection with
    | none =>
      left
      dsimp only
      rw [UnitOfWork.dispose_disconnected connection]
    | some n =>
      obtain ⟨c, conn, _⟩ := (inv.connected name u found).stands n connection
      exact .inr ⟨u, n, rfl, connection, (UnitOfWork.dispose_connected connection conn).2⟩

theorem serialized_drop
    (inv : Serialized path start file s.unit? s.world.store transcript committed) (name : String) :
    Serialized path start file (s.drop name).2.unit? (s.drop name).2.world.store transcript
      committed := by
  rw [unit?_drop]
  cases found : s.unit? name with
  | none =>
    have same : (s.drop name).2 = s := by simp [drop, found]
    rw [same]
    exact inv.forgotten name
  | some u =>
    have disposed : (s.drop name).2.world = (u.dispose s.world).2 := by simp [drop, found]
    rw [disposed]
    exact inv.dropping found

theorem serialized_put {n : Nat} {o : StoreOptions}
    (inv : Serialized path start file s.unit? s.world.store transcript committed) (name : String)
    (used : n < s.world.store.nextConnection)
    (free : ∀ other v, s.unit? other = some v → v.connection ≠ some n)
    (timely : o.busyTimeoutMs.toNat ≤ maxBusyTimeoutMs)
    (conn : s.world.store.connection? n = some ((Connection.fresh file o.foreignKeys).begun
      (s.world.store.committed file) o.transactionMode)) :
    Serialized path start file
      ((s.drop name).2.put name ⟨some n, .ongoing, none, o.filterMode⟩ (s.drop name).2.world).unit?
      (s.drop name).2.world.store (Function.update transcript name ⟨o, []⟩) committed := by
  have dropped := serialized_drop inv name
  -- dropping the unit that had the name closes another connection than the new one
  have kept : (s.drop name).2.world.store.nextConnection = s.world.store.nextConnection ∧
      (s.drop name).2.world.store.committed file = s.world.store.committed file ∧
      (s.drop name).2.world.store.connection? n = s.world.store.connection? n := by
    rcases store_drop inv name with same | ⟨u, m, unit, connection, closed⟩
    · rw [same]
      exact ⟨rfl, rfl, rfl⟩
    · have apart : n ≠ m := by
        intro same
        exact free name u unit (same ▸ connection)
      rw [closed, Store.connection?_close, if_neg apart]
      exact ⟨rfl, rfl, rfl⟩
  obtain ⟨next, same, found⟩ := kept
  have own : Serialized.Owns (s.drop name).2.unit? (s.drop name).2.world.store name n := by
    constructor
    · rw [next]
      exact used
    · intro other v apart unit
      rw [unit?_drop, Function.update_of_ne apart] at unit
      exact free other v unit
  rw [unit?_put]
  apply dropped.begins own timely
  rw [found, same]
  exact conn

theorem serialized_begin
    (inv : Serialized path start file s.unit? s.world.store transcript committed) (name : String)
    (o : StoreOptions) :
    (∃ e s', s.begin name (.file path) o none = (.error e, s') ∧
        Serialized path start file s'.unit? s'.world.store transcript committed) ∨
      ∃ s', s.begin name (.file path) o none = (.ok (), s') ∧
        Serialized path start file s'.unit? s'.world.store
          (Function.update transcript name ⟨o, []⟩) committed := by
  have fresh := inv.unused s.world.store.nextConnection (Nat.le_refl _)
  rcases World.beginUnit_file inv.leads fresh o with
    ⟨e, w, began, same | closed⟩ | ⟨w, timely, began, store⟩
  · refine .inl ⟨e, { s with world := w }, by rw [begin, began], ?_⟩
    rw [← same] at inv
    exact inv
  · refine .inl ⟨e, { s with world := w }, by rw [begin, began], ?_⟩
    have again := inv.closedAgain o.foreignKeys
    rw [← closed] at again
    exact again
  · right
    rw [begin, began]
    refine ⟨_, rfl, ?_⟩
    have joined := inv.joined o.foreignKeys ((Connection.fresh file o.foreignKeys).begun
      (s.world.store.committed file) o.transactionMode)
    rw [← store] at joined
    have conn := Store.connection?_putConnection_self ((Store.connection?_connect fresh file
      o.foreignKeys _).trans (if_pos rfl)) ((Connection.fresh file o.foreignKeys).begun
        (s.world.store.committed file) o.transactionMode)
    rw [← store] at conn
    refine serialized_put (s := { s with world := w }) joined name ?_ ?_ timely ?_
    · rw [store]
      exact Nat.lt_succ_self _
    · intro other v unit connection
      exact Nat.lt_irrefl _ (inv.owns unit connection).1
    · rw [conn, store]
      rfl

end Session

/-! ## Histories -/

namespace History

def IsSerialized (path : String) (start : World) (file : Nat) (h : History) : Prop :=
  Serialized path start file h.session.unit? h.session.world.store h.transcript h.committed

theorem isSerialized_start {w : World} (idle : w.IsIdle path file) :
    (History.start w).IsSerialized path w file := by
  constructor
  · exact idle.leads
  · intro n _
    simp [History.start, Store.connection?, idle.alone]
  · intro name u unit
    cases unit
  · intro a b u v n unit
    cases unit
  · intro name u n c unit
    cases unit
  · exact ⟨w, .nil, idle, rfl⟩

theorem IsSerialized.step {h : History} (inv : h.IsSerialized path start file) (step : Step) :
    (h.step path step).IsSerialized path start file := by
  unfold IsSerialized at inv ⊢
  cases step with
  | begin name options =>
    rcases Session.serialized_begin inv name options with
      ⟨e, s, began, serialized⟩ | ⟨s, began, serialized⟩
    · simp only [History.step, began]
      exact serialized
    · simp only [History.step, began]
      exact serialized
  | call name call =>
    cases found : h.session.unit? name with
    | none =>
      simp only [History.step, Session.act_none found]
      exact inv
    | some u =>
      simp only [History.step, Session.act_some found, Session.unit?_put]
      exact inv.called found call
  | commit name =>
    cases found : h.session.unit? name with
    | none =>
      simp only [History.step, Session.act_none found]
      exact inv
    | some u =>
      rcases inv.committing found with ⟨answer, serialized⟩ | ⟨e, answer, serialized⟩
      · simp only [History.step, Session.act_some found, answer, Session.unit?_put]
        exact serialized
      · simp only [History.step, Session.act_some found, answer, Session.unit?_put]
        exact serialized
  | rollback name =>
    cases found : h.session.unit? name with
    | none =>
      simp only [History.step, Session.act_none found]
      exact inv
    | some u =>
      simp only [History.step, Session.act_some found, Session.unit?_put]
      exact inv.rollingBack found
  | dispose name =>
    cases found : h.session.unit? name with
    | none =>
      simp only [History.step, Session.act_none found]
      exact inv
    | some u =>
      simp only [History.step, Session.act_some found, Session.unit?_put]
      exact inv.disposing found
  | drop name => exact Session.serialized_drop inv name

theorem IsSerialized.run {h : History} (inv : h.IsSerialized path start file)
    (steps : List Step) : (h.run path steps).IsSerialized path start file := by
  induction steps generalizing h with
  | nil => exact inv
  | cons step rest ih => exact ih (inv.step step)

/-- Whatever units do to a file in whatever order, it holds what the calls of the units that have
committed come to one unit after the other, in the order of their commits and each with the answers
that it got. That is what is read from outside, unless the lock of a unit keeps readers out. -/
theorem serialized {w : World} (idle : w.IsIdle path file) (steps : List Step) :
    ∃ w', Serially path file w ((History.start w).run path steps).committed w' ∧
      ((History.start w).run path steps).session.world.store.committed file
        = w'.store.committed file ∧
      ∀ table,
        (((History.start w).run path steps).session.world.readTable path table).1
            = (w'.readTable path table).1 ∨
          (((History.start w).run path steps).session.world.readTable path table).1
              = .error (.outside (.failed .locked)) ∧
            ∃ e ∈ ((History.start w).run path steps).session.world.store.connections,
              e.2.file = file ∧ e.2.lock.atLeast .pending = true := by
  have inv := (isSerialized_start idle).run steps
  generalize (History.start w).run path steps = h at inv
  obtain ⟨w', serially, idle', same⟩ := inv.serial
  refine ⟨w', serially, same.symm, ?_⟩
  exact World.readTable_committed inv.leads idle'.leads (inv.unused _ (Nat.le_refl _)) idle'.alone
    same

def quietWorld : World := .ofStore ⟨[⟨some ["a.db"], emptyTables⟩], [], [], 0⟩

theorem isIdle_quietWorld : quietWorld.IsIdle "/a.db" 0 :=
  ⟨rfl, by decide, ["a.db"], by decide, by decide⟩

/-- A writer cannot commit before a reader, is rolled back and tries again. -/
def contended : List Step :=
  let entry : Entry := ⟨1, none, .newYear2024⟩
  let atOnce : StoreOptions := { StoreOptions.default with transactionMode := .immediate }
  [.begin "reader" .default, .begin "writer" atOnce, .call "reader" (.getAll entryRecord none),
    .call "writer" (.create entryRecord entry), .commit "writer",
    .begin "writer" .default, .call "writer" (.create entryRecord entry),
    .commit "reader", .commit "writer", .drop "reader"]

theorem serialized_contended :
    quietWorld.IsIdle "/a.db" 0 ∧
      ((History.start quietWorld).run "/a.db" contended).committed.length = 2 ∧
      ∃ w', Serially "/a.db" 0 quietWorld
          ((History.start quietWorld).run "/a.db" contended).committed w' ∧
        w'.store.committed 0 = [⟨entriesLayout, [⟨1, [.null, .text "2024-01-01"]⟩]⟩,
          ⟨linksLayout, []⟩, ⟨itemsLayout, []⟩] := by
  refine ⟨isIdle_quietWorld, by decide +kernel, ?_⟩
  obtain ⟨w', serially, same, _⟩ := serialized isIdle_quietWorld contended
  exact ⟨w', serially, same.symm.trans (by decide +kernel)⟩

end History

end RecordStore
