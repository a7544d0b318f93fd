import RecordStore.Proofs.Repository
import RecordStore.Proofs.Store.Connections

/-!
Ends of a unit. Whatever ends it releases its connection, and only a commit that succeeds
changes the committed tables.
-/
namespace RecordStore

open Sql

namespace Store

variable {s : Store} {n : Nat} {c : Connection}

def keep (s : Store) (n : Nat) (c : Connection) : Store :=
  match c.work with
  | none => s.putConnection n c.released
  | some tables => (s.putTables c.file tables).putConnection n c.released

@[simp] theorem keep_nextConnection (s : Store) (n : Nat) (c : Connection) :
    (s.keep n c).nextConnection = s.nextConnection := by
  unfold keep
  cases c.work <;> rfl

theorem connection?_keep_self (conn : s.connection? n = some c) :
    (s.keep n c).connection? n = some c.released := by
  unfold keep
  cases c.work with
  | none => exact connection?_putConnection_self conn _
  | some tables => exact connection?_putConnection_self (s := s.putTables c.file tables) conn _

theorem connection?_keep_other {other : Nat} (apart : other ≠ n) :
    (s.keep n c).connection? other = s.connection? other := by
  unfold keep
  cases c.work with
  | none => exact connection?_putConnection_other apart _
  | some tables => exact connection?_putConnection_other (s := s.putTables c.file tables) apart _

def mayKeep (s : Store) (n : Nat) (c : Connection) : Bool :=
  decide (c.openReferences ≤ 0) && c.work.all fun tables =>
    s.mayCommit n c && (c.medium.onCommit (s.committed c.file) tables).isNone

theorem mayKeep_iff : s.mayKeep n c = true ↔ c.openReferences ≤ 0 ∧ ∀ tables, c.work = some tables →
    s.mayCommit n c = true ∧ c.medium.onCommit (s.committed c.file) tables = none := by
  cases work : c.work <;> simp [mayKeep, work]

/-- A reliable medium has no part in a commit. -/
theorem mayKeep_of_reliable (reliable : c.medium = .reliable) (closed : c.openReferences ≤ 0)
    (free : c.work = none ∨ s.mayCommit n c = true) : s.mayKeep n c = true := by
  refine mayKeep_iff.mpr ⟨closed, fun tables work => ?_⟩
  rw [reliable, Medium.onCommit_reliable]
  exact ⟨free.resolve_left (by simp [work]), rfl⟩

theorem runCommand_commit_ok (conn : s.connection? n = some c)
    (transaction : c.inTransaction = true) (may : s.mayKeep n c = true) :
    s.runCommand n .commit = (.ok (), s.keep n c) := by
  obtain ⟨closed, takes⟩ := mayKeep_iff.mp may
  have settled : ¬ 0 < c.openReferences := by omega
  cases work : c.work with
  | none =>
    simp only [runCommand, conn, step, commit, transaction, settled, work, keep]
    rfl
  | some tables =>
    obtain ⟨free, takes⟩ := takes tables work
    simp only [runCommand, conn, step, commit, transaction, settled, work, keep, free, takes]
    rfl

/-- A commit that fails leaves the transaction as it was, up to a lock, or the medium has ended
it. -/
theorem runCommand_commit_error (conn : s.connection? n = some c)
    (transaction : c.inTransaction = true) (may : s.mayKeep n c = false) :
    ∃ e, s.runCommand n .commit = (.error e, s) ∨
      (∃ l, s.runCommand n .commit = (.error e, s.putConnection n { c with lock := l })) ∨
      s.runCommand n .commit = (.error e, s.putConnection n c.released) := by
  by_cases dangling : 0 < c.openReferences
  · refine ⟨.failed .danglingReference, .inl ?_⟩
    simp only [runCommand, conn, step, commit, transaction, dangling]
    rfl
  · have settled : c.openReferences ≤ 0 := by omega
    cases work : c.work with
    | none => simp [mayKeep, settled, work] at may
    | some tables =>
      cases free : s.mayCommit n c with
      | false =>
        refine ⟨.failed .locked, .inr (.inl ⟨c.lock.join .pending, ?_⟩)⟩
        simp only [runCommand, conn, step, commit, transaction, dangling, work, free]
        rfl
      | true =>
        cases takes : c.medium.onCommit (s.committed c.file) tables with
        | none => simp [mayKeep, settled, work, free, takes] at may
        | some e =>
          refine ⟨.failed (.medium e), .inr (.inr ?_)⟩
          simp only [runCommand, conn, step, commit, transaction, dangling, work, free, takes]
          rfl

theorem runCommand_rollback (conn : s.connection? n = some c)
    (transaction : c.inTransaction = true) :
    s.runCommand n .rollback = (.ok (), s.putConnection n c.released) := by
  simp only [runCommand, conn, step, rollback, transaction]
  rfl

theorem runCommand_rollback_outside (conn : s.connection? n = some c)
    (outside : c.inTransaction = false) :
    s.runCommand n .rollback = (.error (.failed .rollbackOutside), s) := by
  simp only [runCommand, conn, step, rollback, outside]
  rfl

theorem inTransaction_eq (conn : s.connection? n = some c) :
    s.inTransaction n = c.inTransaction := by
  rw [inTransaction, conn]

@[simp] theorem close_putConnection (s : Store) (n : Nat) (c : Connection) :
    (s.putConnection n c).close n = s.close n := by
  unfold close putConnection
  congr 1
  induction s.connections with
  | nil => rfl
  | cons e rest ih =>
    by_cases same : e.1 = n
    · simp [same, ih]
    · simp [same, ih]

end Store

namespace UnitOfWork

variable {u : UnitOfWork} {w : World} {n : Nat} {c : Connection}

theorem store_rollbackQuietly (conn : w.store.connection? n = some c)
    (transaction : c.inTransaction = true) :
    (rollbackQuietly w n).store = w.store.putConnection n c.released := by
  rw [rollbackQuietly, Store.inTransaction_eq conn, if_pos transaction,
    Store.runCommand_rollback conn transaction]

/-- Where there is no transaction nothing is rolled back. -/
theorem rollbackQuietly_outside (conn : w.store.connection? n = some c)
    (outside : c.inTransaction = false) : rollbackQuietly w n = w := by
  rw [rollbackQuietly, Store.inTransaction_eq conn, outside]
  rfl

theorem commit_ok (opened : u.openConnection? = some n) (conn : w.store.connection? n = some c)
    (transaction : c.inTransaction = true) (clean : u.failure = none)
    (may : w.store.mayKeep n c = true) :
    (u.commit w).answer = .ok () ∧ (u.commit w).unit = { u with state := .committed } ∧
      (u.commit w).world.store = w.store.keep n c := by
  rw [commit, opened, clean]
  dsimp only
  rw [Store.runCommand_commit_ok conn transaction may]
  exact ⟨rfl, rfl, rfl⟩

theorem commit_error (opened : u.openConnection? = some n)
    (conn : w.store.connection? n = some c) (transaction : c.inTransaction = true)
    (hindered : u.failure ≠ none ∨ w.store.mayKeep n c = false) :
    ∃ e failure, (u.commit w).answer = .error e ∧
      (u.commit w).unit = { u with state := .rolledBack, failure := failure } ∧
      (u.commit w).world.store = w.store.putConnection n c.released := by
  cases failed : u.failure with
  | some f =>
    rw [commit, opened, failed]
    exact ⟨_, none, rfl, rfl, store_rollbackQuietly conn transaction⟩
  | none =>
    have blocked := hindered.resolve_left (fun h => h failed)
    rw [commit, opened, failed]
    dsimp only
    obtain ⟨e, ran | ⟨l, ran⟩ | ran⟩ := Store.runCommand_commit_error conn transaction blocked
    · rw [ran]
      exact ⟨_, none, rfl, by rw [← failed], store_rollbackQuietly (w := { w with store := _ })
        conn transaction⟩
    · rw [ran]
      refine ⟨_, none, rfl, by rw [← failed], ?_⟩
      have conn' := Store.connection?_putConnection_self conn { c with lock := l }
      exact (store_rollbackQuietly (w := { w with store := _ }) conn' transaction).trans
        (Store.putConnection_putConnection w.store n _ _)
    · rw [ran]
      have conn' := Store.connection?_putConnection_self conn c.released
      exact ⟨_, none, rfl, by rw [← failed],
        congrArg World.store (rollbackQuietly_outside (w := { w with store := _ }) conn' rfl)⟩

/-- A commit of an open unit succeeds or is rolled back. -/
theorem commit_cases (opened : u.openConnection? = some n)
    (conn : w.store.connection? n = some c) (transaction : c.inTransaction = true) :
    ((u.failure = none ∧ w.store.mayKeep n c = true) ∧ (u.commit w).answer = .ok () ∧
        (u.commit w).unit = { u with state := .committed } ∧
        (u.commit w).world.store = w.store.keep n c) ∨
      ∃ e failure, (u.commit w).answer = .error e ∧
        (u.commit w).unit = { u with state := .rolledBack, failure := failure } ∧
        (u.commit w).world.store = w.store.putConnection n c.released := by
  by_cases clean : u.failure = none
  · cases may : w.store.mayKeep n c with
    | true => exact .inl ⟨⟨clean, rfl⟩, commit_ok opened conn transaction clean may⟩
    | false => exact .inr (commit_error opened conn transaction (.inr may))
  · exact .inr (commit_error opened conn transaction (.inl clean))

theorem rollback_ok (opened : u.openConnection? = some n)
    (conn : w.store.connection? n = some c) (transaction : c.inTransaction = true) :
    (u.rollback w).unit = { u with state := .rolledBack } ∧
      (u.rollback w).world.store = w.store.putConnection n c.released := by
  rw [rollback, opened]
  dsimp only
  rw [Store.runCommand_rollback conn transaction]
  exact ⟨rfl, rfl⟩

/-- A unit that has lost its transaction has nothing left to roll back when it commits. -/
theorem commit_outside {f : FailedStatement} (opened : u.openConnection? = some n)
    (conn : w.store.connection? n = some c) (outside : c.inTransaction = false)
    (failed : u.failure = some f) :
    (u.commit w).answer = .error (.commitAborted f) ∧
      (u.commit w).unit = { u with state := .rolledBack, failure := none } ∧
      (u.commit w).world.store = w.store := by
  rw [commit, opened, failed]
  dsimp only
  rw [rollbackQuietly_outside conn outside]
  exact ⟨rfl, rfl, rfl⟩

theorem rollback_outside (opened : u.openConnection? = some n)
    (conn : w.store.connection? n = some c) (outside : c.inTransaction = false) :
    (u.rollback w).unit = { u with state := .rolledBack } ∧
      (u.rollback w).world.store = w.store := by
  rw [rollback, opened]
  dsimp only
  rw [Store.runCommand_rollback_outside conn outside]
  exact ⟨rfl, rfl⟩

/-- Whether or not the transaction goes on, nothing of the connection is left. -/
theorem close_rollbackQuietly (conn : w.store.connection? n = some c) :
    (rollbackQuietly w n).store.close n = w.store.close n := by
  cases transaction : c.inTransaction with
  | true => rw [store_rollbackQuietly conn transaction, Store.close_putConnection]
  | false => rw [rollbackQuietly_outside conn transaction]

theorem dispose_connected (connected : u.connection = some n)
    (conn : w.store.connection? n = some c) :
    (u.dispose w).1 = { u with connection := none, state := .disposed } ∧
      (u.dispose w).2.store = w.store.close n := by
  rw [dispose, connected]
  refine ⟨rfl, ?_⟩
  by_cases ongoing : u.state = .ongoing
  · simp only [if_pos ongoing, World.store_log, close_rollbackQuietly conn]
  · simp only [if_neg ongoing, World.store_log]

theorem dispose_disconnected (disconnected : u.connection = none) : u.dispose w = (u, w) := by
  rw [dispose, disconnected]

theorem closed_of_not_ongoing (ended : u.state ≠ .ongoing) : u.openConnection? = none :=
  if_neg ended

theorem opened_of_ongoing (ongoing : u.state = .ongoing) (connected : u.connection = some n) :
    u.openConnection? = some n := by
  rw [openConnection?, if_pos ongoing, connected]

theorem commit_closed (closed : u.openConnection? = none) :
    ∃ e, u.commit w = ⟨.error e, u, w⟩ := by
  rw [commit, closed]
  exact ⟨_, rfl⟩

theorem of_commit_ok (committed : (u.commit w).answer = .ok ()) :
    u.state = .ongoing ∧ u.failure = none := by
  by_cases ongoing : u.state = .ongoing
  · refine ⟨ongoing, ?_⟩
    unfold commit at committed
    split at committed
    · cases committed
    · cases committed
    · assumption
  · obtain ⟨e, refused⟩ := commit_closed (w := w) (closed_of_not_ongoing ongoing)
    rw [refused] at committed
    cases committed

theorem rollback_closed (closed : u.openConnection? = none) :
    ∃ e, u.rollback w = ⟨.error e, u, w⟩ := by
  rw [rollback, closed]
  exact ⟨_, rfl⟩

end UnitOfWork

end RecordStore
