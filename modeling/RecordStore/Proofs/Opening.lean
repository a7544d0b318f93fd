import RecordStore.Opening
import RecordStore.Proofs.Repository
import RecordStore.Proofs.Store.Connections
import RecordStore.Proofs.Store.Places

/-!
Beginning a unit. It opens a connection and starts a transaction there, with the locks of its
mode.
-/
namespace RecordStore

open Sql

/-- The connection in a transaction of its own, with the locks of its mode. -/
def Connection.begun (c : Connection) (committed : Tables) : TransactionMode → Connection
  | .deferred => { c with inTransaction := true, lock := .none, work := none }
  | .immediate => { c with inTransaction := true, lock := .reserved, work := some committed }
  | .exclusive => { c with inTransaction := true, lock := .exclusive, work := some committed }

@[simp] theorem Connection.begun_file (c : Connection) (committed : Tables)
    (mode : TransactionMode) : (c.begun committed mode).file = c.file := by
  cases mode <;> rfl

@[simp] theorem Connection.begun_medium (c : Connection) (committed : Tables)
    (mode : TransactionMode) : (c.begun committed mode).medium = c.medium := by
  cases mode <;> rfl

@[simp] theorem Connection.begun_inTransaction (c : Connection) (committed : Tables)
    (mode : TransactionMode) : (c.begun committed mode).inTransaction = true := by
  cases mode <;> rfl

namespace Store

variable {s : Store} {id : Nat} {c : Connection} {mode : TransactionMode}

def mayBegin (s : Store) (id : Nat) (c : Connection) : TransactionMode → Bool
  | .deferred => true
  | .immediate => s.mayWrite id c
  | .exclusive => s.mayWrite id c && s.mayCommit id c

theorem begin_eq (s : Store) (id : Nat) (c : Connection) (mode : TransactionMode) :
    s.begin id c mode
      = if s.mayBegin id c mode = false then (.error .locked, s)
        else if c.inTransaction then (.error .nestedBegin, s)
        else (.ok (.done c.changes), s.putConnection id (c.begun (s.committed c.file) mode)) := by
  cases mode with
  | deferred => rfl
  | immediate => cases h : s.mayWrite id c <;> simp [Store.begin, mayBegin, h, Connection.begun]
  | exclusive =>
    cases h : s.mayWrite id c <;> cases h' : s.mayCommit id c <;>
      simp [Store.begin, mayBegin, h, h', Connection.begun]

theorem runCommand_begin (conn : s.connection? id = some c) (mode : TransactionMode) :
    s.runCommand id (.begin mode)
      = if s.mayBegin id c mode = false then (.error (.failed .locked), s)
        else if c.inTransaction then (.error (.failed .nestedBegin), s)
        else (.ok (), s.putConnection id (c.begun (s.committed c.file) mode)) := by
  simp only [runCommand, conn, step, begin_eq]
  split
  · rfl
  · split <;> rfl

theorem visible_begun (s : Store) (file : Nat) (enforced : Bool) (mode : TransactionMode) :
    s.visible ((Connection.fresh file enforced).begun (s.committed file) mode)
      = s.committed file := by
  cases mode <;> rfl

end Store

namespace World

variable {w : World} {l : Location} {o : StoreOptions}

/-- An opening that fails leaves the store as it was, or with what a closed connection made. -/
theorem openDatabase_cases (w : World) (l : Location) (o : StoreOptions) :
    (∃ e w', w.openDatabase l o = (.error e, w') ∧ (w'.store = w.store ∨
        ∃ n s, connect w.store l o = .ok (n, s) ∧ w'.store = s.close n)) ∨
      ∃ n s w', w.openDatabase l o = (.ok n, w') ∧ connect w.store l o = .ok (n, s) ∧
        o.busyTimeoutMs.toNat ≤ maxBusyTimeoutMs ∧ w'.store = s := by
  simp only [openDatabase, store_log]
  cases connected : connect w.store l o with
  | error e => exact .inl ⟨_, _, rfl, .inl rfl⟩
  | ok opened =>
    obtain ⟨n, s⟩ := opened
    dsimp only
    split
    · exact .inl ⟨_, _, rfl, .inr ⟨n, s, rfl, rfl⟩⟩
    · rename_i timely
      exact .inr ⟨n, s, _, rfl, rfl, Nat.not_lt.mp timely, rfl⟩

theorem openDatabase_ok {n : Nat} {s : Store} (connected : connect w.store l o = .ok (n, s))
    (timely : o.busyTimeoutMs.toNat ≤ maxBusyTimeoutMs) :
    ∃ w', w.openDatabase l o = (.ok n, w') ∧ w'.store = s := by
  simp only [openDatabase, store_log, connected, if_neg (Nat.not_lt.mpr timely)]
  exact ⟨_, rfl, rfl⟩

/-- A begun unit has a connection in a transaction; one that did not begin has none. -/
theorem beginUnit_cases (w : World) (l : Location) (o : StoreOptions) :
    (∃ e w', w.beginUnit l o none = (.error e, w') ∧ (w'.store = w.store ∨
        ∃ n s, connect w.store l o = .ok (n, s) ∧ w'.store = s.close n)) ∨
      ∃ n s, connect w.store l o = .ok (n, s) ∧ o.busyTimeoutMs.toNat ≤ maxBusyTimeoutMs ∧
        ((∃ e s' w', s.runCommand n (.begin o.transactionMode) = (.error e, s') ∧
            w.beginUnit l o none = (.error (.unit (.database (.store e))), w') ∧
            w'.store = s'.close n) ∨
          ∃ w', s.runCommand n (.begin o.transactionMode) = (.ok (), w'.store) ∧
            w.beginUnit l o none = (.ok ⟨some n, .ongoing, none, o.filterMode⟩, w')) := by
  rcases w.openDatabase_cases l o with
    ⟨e, w₁, opened, same⟩ | ⟨n, s, w₁, opened, connected, timely, same⟩
  · exact .inl ⟨e, w₁, by rw [beginUnit, opened], same⟩
  · refine .inr ⟨n, s, connected, timely, ?_⟩
    subst same
    rw [beginUnit, opened]
    simp only [prepareConnection, UnitOfWork.begin]
    rcases ran : w₁.store.runCommand n (.begin o.transactionMode) with ⟨answer, s'⟩
    cases answer with
    | error e => exact .inl ⟨e, s', _, rfl, rfl, rfl⟩
    | ok _ => exact .inr ⟨_, rfl, rfl⟩

/-- A unit that begins on a file is one connection more; one that does not leaves none behind. -/
theorem beginUnit_file {path : String} {file : Nat} (leads : w.store.LeadsTo path file)
    (unused : w.store.connection? w.store.nextConnection = none) (o : StoreOptions) :
    (∃ e w', w.beginUnit (.file path) o none = (.error e, w') ∧
        (w'.store = w.store ∨
          w'.store = (w.store.connect file o.foreignKeys).2.close w.store.nextConnection)) ∨
      ∃ w', o.busyTimeoutMs.toNat ≤ maxBusyTimeoutMs ∧
        w.beginUnit (.file path) o none
          = (.ok ⟨some w.store.nextConnection, .ongoing, none, o.filterMode⟩, w') ∧
        w'.store = (w.store.connect file o.foreignKeys).2.putConnection w.store.nextConnection
          ((Connection.fresh file o.foreignKeys).begun (w.store.committed file)
            o.transactionMode) := by
  have opened : connect w.store (.file path) o
      = .ok (w.store.nextConnection, (w.store.connect file o.foreignKeys).2) := leads.openPath _
  have conn := (Store.connection?_connect unused file o.foreignKeys _).trans (if_pos rfl)
  rcases w.beginUnit_cases (.file path) o with
    ⟨e, w', began, store⟩ | ⟨n, s, connected, timely, ended⟩
  · refine .inl ⟨e, w', began, store.imp_right ?_⟩
    rintro ⟨n, s, connected, closed⟩
    cases Except.ok.inj (opened.symm.trans connected)
    exact closed
  cases Except.ok.inj (opened.symm.trans connected)
  rcases ended with ⟨e, s', w', ran, began, store⟩ | ⟨w', ran, began⟩
  · refine .inl ⟨_, w', began, .inr ?_⟩
    rw [Store.runCommand_begin conn] at ran
    split at ran
    · rw [store, ← (Prod.mk.inj ran).2]
    · split at ran
      · rw [store, ← (Prod.mk.inj ran).2]
      · cases ran
  · refine .inr ⟨w', timely, began, ?_⟩
    rw [Store.runCommand_begin conn] at ran
    split at ran
    · cases ran
    · exact (Prod.mk.inj ran).2.symm

theorem beginUnit_ok {n : Nat} {s s' : Store} (connected : connect w.store l o = .ok (n, s))
    (timely : o.busyTimeoutMs.toNat ≤ maxBusyTimeoutMs)
    (ran : s.runCommand n (.begin o.transactionMode) = (.ok (), s')) :
    ∃ w', w.beginUnit l o none = (.ok ⟨some n, .ongoing, none, o.filterMode⟩, w') ∧
      w'.store = s' := by
  obtain ⟨w₁, opened, rfl⟩ := openDatabase_ok connected timely
  simp only [beginUnit, opened, prepareConnection, UnitOfWork.begin, ran]
  exact ⟨_, rfl, rfl⟩

end World

end RecordStore
