import RecordStore.Proofs.Opening
import RecordStore.Proofs.Session.Endings
import RecordStore.Proofs.Session.History
import RecordStore.Proofs.Store.Places

/-!
A unit on its own. Where nobody is connected, a unit with a transcript begins, gets its
answers, and comes to the connection that it has among others.
-/
namespace RecordStore

open Sql

/-! ## Stores with one connection -/

namespace Store

variable {s : Store} {m : Nat} {c : Connection}

theorem connection?_of_single (single : s.connections = [(m, c)]) : s.connection? m = some c := by
  simp [connection?, single]

theorem isQuiet_of_single (single : s.connections = [(m, c)]) (file : Nat) :
    s.IsQuiet m file := by
  intro l _
  simp [othersHold, single]

theorem putConnection_single (single : s.connections = [(m, c)]) (c' : Connection) :
    (s.putConnection m c').connections = [(m, c')] := by
  simp [putConnection, single]

theorem IsQuiet.mayBegin (quiet : s.IsQuiet m c.file) (mode : TransactionMode) :
    s.mayBegin m c mode = true := by
  cases mode with
  | deferred => rfl
  | immediate => exact quiet.mayWrite
  | exclusive => simp [Store.mayBegin, quiet.mayWrite, quiet.mayCommit]

theorem keep_single (single : s.connections = [(m, c)]) :
    (s.keep m c).connections = [(m, c.released)] := by
  unfold keep
  cases c.work with
  | none => exact putConnection_single single _
  | some tables => exact putConnection_single (s := s.putTables c.file tables) single _

theorem places_keep (s : Store) (n : Nat) (c : Connection) :
    (s.keep n c).files.map DatabaseFile.place = s.files.map DatabaseFile.place := by
  unfold keep
  cases c.work with
  | none => rfl
  | some tables => exact places_putTables ..

theorem directories_keep (s : Store) (n : Nat) (c : Connection) :
    (s.keep n c).directories = s.directories := by
  unfold keep
  cases c.work <;> rfl

theorem committed_keep (inside : c.file < s.files.length) (n : Nat) :
    (s.keep n c).committed c.file = s.visible c := by
  unfold keep visible
  cases c.work with
  | none => rfl
  | some tables => exact committed_putTables inside tables

end Store

structure World.IsIdle (path : String) (file : Nat) (w : World) : Prop where
  alone : w.store.connections = []
  leads : w.store.LeadsTo path file

namespace Transcript

/-- On its own in the world the unit gets the answers of its transcript and then has the
connection. -/
def Reaches (path : String) (t : Transcript) (w : World) (mode : FilterMode) (c : Connection) :
    Prop :=
  ∃ m w₁ w₂, w.beginUnit (.file path) t.options none
      = (.ok ⟨some m, .ongoing, none, mode⟩, w₁) ∧
    callAll t.calls ⟨some m, .ongoing, none, mode⟩ w₁
      = (t.exchanges, ⟨some m, .ongoing, none, mode⟩, w₂) ∧
    w₂.store.connections = [(m, c)] ∧ w₂.store.files = w.store.files ∧
    w₂.store.directories = w.store.directories

variable {path : String} {file : Nat} {t : Transcript} {w : World} {mode : FilterMode}
  {c : Connection}

/-- A unit that has just begun. The mode of its transaction takes tables into work only
under a lock. -/
theorem reaches_begun {o : StoreOptions} (idle : w.IsIdle path file)
    (timely : o.busyTimeoutMs.toNat ≤ maxBusyTimeoutMs) {tables : Tables}
    (same : ((Connection.fresh file o.foreignKeys).begun tables o.transactionMode).lock ≠ .none →
      w.store.committed file = tables) :
    Reaches path ⟨o, []⟩ w o.filterMode
      ((Connection.fresh file o.foreignKeys).begun tables o.transactionMode) := by
  have connected : World.connect w.store (.file path) o
      = .ok (w.store.connect file o.foreignKeys) := idle.leads.openPath _
  have single : (w.store.connect file o.foreignKeys).2.connections
      = [(w.store.nextConnection, .fresh file o.foreignKeys)] := by
    simp [Store.connect, idle.alone]
  have conn := Store.connection?_of_single single
  have quiet : (w.store.connect file o.foreignKeys).2.IsQuiet w.store.nextConnection
      (Connection.fresh file o.foreignKeys).file := Store.isQuiet_of_single single file
  have ran : (w.store.connect file o.foreignKeys).2.runCommand w.store.nextConnection
      (.begin o.transactionMode) = (.ok (), (w.store.connect file o.foreignKeys).2.putConnection
        w.store.nextConnection ((Connection.fresh file o.foreignKeys).begun
          (w.store.committed file) o.transactionMode)) := by
    rw [Store.runCommand_begin conn, quiet.mayBegin]
    rfl
  have begun_same : (Connection.fresh file o.foreignKeys).begun (w.store.committed file)
        o.transactionMode
      = (Connection.fresh file o.foreignKeys).begun tables o.transactionMode := by
    cases mode : o.transactionMode with
    | deferred => rfl
    | immediate | exclusive =>
      rw [mode] at same
      rw [same (by simp [Connection.begun])]
  obtain ⟨w', begun, store⟩ := World.beginUnit_ok connected timely ran
  refine ⟨_, w', w', begun, rfl, ?_, by rw [store]; rfl, by rw [store]; rfl⟩
  rw [store, Store.putConnection_single single, begun_same]

theorem callAll_concat (calls : List Call) (call : Call) (u : UnitOfWork) (w : World) :
    callAll (calls ++ [call]) u w
      = ((callAll calls u w).1 ++
          [⟨call, (call.run (callAll calls u w).2.1 (callAll calls u w).2.2).answer⟩],
        (call.run (callAll calls u w).2.1 (callAll calls u w).2.2).unit,
        (call.run (callAll calls u w).2.1 (callAll calls u w).2.2).world) := by
  induction calls generalizing u w with
  | nil => rfl
  | cons first rest ih =>
    simp only [List.cons_append, callAll, ih]

theorem calls_extended (t : Transcript) (x : Exchange) :
    (t.extended x).calls = t.calls ++ [x.call] := by
  simp [calls, extended]

theorem Reaches.extended (reaches : t.Reaches path w mode c) {call : Call}
    {answer : Except RepositoryError call.Answer} {c' : Connection}
    (gives : ∀ m w₂, w₂.store.connections = [(m, c)] → w₂.store.files = w.store.files →
      ∃ s, UnitOfWork.Gives (call.run ⟨some m, .ongoing, none, mode⟩ w₂) answer
          ⟨some m, .ongoing, none, mode⟩ s ∧
        s.connections = [(m, c')] ∧ s.files = w₂.store.files ∧
        s.directories = w₂.store.directories) :
    (t.extended ⟨call, answer⟩).Reaches path w mode c' := by
  obtain ⟨m, w₁, w₂, begun, answered, single, files, directories⟩ := reaches
  obtain ⟨s, ⟨answer_eq, unit_eq, store_eq⟩, single', files', directories'⟩ :=
    gives m w₂ single files
  refine ⟨m, w₁, (call.run ⟨some m, .ongoing, none, mode⟩ w₂).world, begun, ?_, ?_, ?_, ?_⟩
  · rw [calls_extended, callAll_concat, answered]
    dsimp only
    rw [answer_eq, unit_eq]
    rfl
  · rw [store_eq, single']
  · rw [store_eq, files', files]
  · rw [store_eq, directories', directories]

theorem Reaches.refused (reaches : t.Reaches path w mode c) {call : Call}
    {e : RepositoryError} (refuses : UnitOfWork.Refuses mode call.run e) :
    (t.extended ⟨call, .error e⟩).Reaches path w mode c :=
  reaches.extended fun _ w₂ single _ => ⟨w₂.store, refuses _ w₂ rfl, single, rfl, rfl⟩

/-- A commit that the connection allows ends the unit and leaves an idle world, with what the
unit saw as committed tables. -/
theorem Reaches.again (reaches : t.Reaches path w mode c) (idle : w.IsIdle path c.file)
    (reliable : c.medium = .reliable) (transaction : c.inTransaction = true)
    (closed : c.openReferences ≤ 0) :
    ∃ w', t.again path w = some (t, some (w'.store.committed c.file), w') ∧
      w'.IsIdle path c.file ∧ w'.store.committed c.file = w.store.visible c := by
  obtain ⟨m, w₁, w₂, begun, answered, single, files, directories⟩ := reaches
  have conn := Store.connection?_of_single single
  have quiet := Store.isQuiet_of_single single c.file
  have may : w₂.store.mayKeep m c = true :=
    Store.mayKeep_of_reliable reliable closed (.inr quiet.mayCommit)
  obtain ⟨answer, unit, store⟩ :=
    UnitOfWork.commit_ok (u := ⟨some m, .ongoing, none, mode⟩) rfl conn transaction rfl may
  have kept := Store.keep_single single
  have conn' : (UnitOfWork.commit ⟨some m, .ongoing, none, mode⟩ w₂).world.store.connection? m
      = some c.released := by
    rw [store]
    exact Store.connection?_of_single kept
  obtain ⟨_, disposed⟩ := UnitOfWork.dispose_connected
    (u := ⟨some m, .committed, none, mode⟩) rfl conn'
  have seen : UnitOfWork.tables? ⟨some m, .ongoing, none, mode⟩ w₂ = some (w₂.store.visible c) := by
    simp [UnitOfWork.tables?, UnitOfWork.openConnection?, conn]
  have inside : c.file < w₂.store.files.length := by
    rw [files]
    exact idle.leads.lt
  have left : ((UnitOfWork.mk (some m) .committed none mode).dispose
      (UnitOfWork.commit ⟨some m, .ongoing, none, mode⟩ w₂).world).2.store.committed c.file
      = w₂.store.visible c := by
    rw [disposed, store]
    exact Store.committed_keep inside m
  refine ⟨((UnitOfWork.mk (some m) .committed none mode).dispose
    (UnitOfWork.commit ⟨some m, .ongoing, none, mode⟩ w₂).world).2, ?_, ⟨?_, ?_⟩, ?_⟩
  · rw [Transcript.again, begun]
    dsimp only
    rw [answered]
    dsimp only
    rw [answer, unit, left, seen]
  · rw [disposed, store]
    simp [Store.close, kept]
  · rw [disposed, store]
    refine idle.leads.congr ?_ ?_
    · rw [← files]
      exact Store.places_keep ..
    · rw [← directories]
      exact Store.directories_keep ..
  · rw [left]
    simp only [Store.visible, Store.committed, files]

end Transcript

end RecordStore
