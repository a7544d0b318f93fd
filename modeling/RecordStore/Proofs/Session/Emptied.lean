import RecordStore.Proofs.Session.Endings
import RecordStore.Proofs.Store.Failing
import RecordStore.Session

/-!
Connections on a store without its rows. What opens one does the same there, and what a commit
leaves there is known from how it ends.
-/
namespace RecordStore

open Sql

/-! ## Commits -/

namespace Store

variable {s s' : Store} {n : Nat} {c : Connection}

theorem emptied_keep (s : Store) (n : Nat) (c : Connection) :
    (s.keep n c).emptied = s.emptied.keep n c.emptied := by
  rw [keep, keep, Connection.emptied_work]
  cases c.work with
  | none => exact emptied_putConnection ..
  | some tables =>
    dsimp only [Option.map_some]
    rw [emptied_putConnection, emptied_putTables]
    rfl

/-- What a commit leaves, by how it ends. -/
def afterCommit (s : Store) (n : Nat) (c : Connection) : Except StoreError Unit → Store
  | .ok _ => s.keep n c
  | .error (.failed .locked) => s.putConnection n { c with lock := c.lock.join .pending }
  | .error (.failed (.medium _)) => s.putConnection n c.released
  | .error _ => s

def commitFailures : List Failure :=
  [.nothingToRun, .commitOutside, .danglingReference, .locked, .medium .full, .medium .inputOutput]

theorem commit_error {e : StoreError} (failed : (s.runCommand n .commit).1 = .error e) :
    ∃ f ∈ commitFailures, e = .failed f := by
  simp only [runCommand, step, commit] at failed
  split at failed
  · cases failed
    exact ⟨_, by decide, rfl⟩
  split at failed
  · cases failed
    exact ⟨_, by decide, rfl⟩
  split at failed
  · cases failed
    exact ⟨_, by decide, rfl⟩
  split at failed
  · cases failed
  split at failed
  · split at failed
    · rename_i e _
      cases failed
      exact ⟨.medium e, by cases e <;> decide, rfl⟩
    · cases failed
  · cases failed
    exact ⟨_, by decide, rfl⟩

theorem runCommand_commit (conn : s.connection? n = some c) :
    (s.runCommand n .commit).2 = s.afterCommit n c (s.runCommand n .commit).1 := by
  simp only [runCommand, conn, step, commit]
  split
  · rfl
  split
  · rfl
  split
  · rename_i work
    simp only [afterCommit, asStoreError, keep, work]
    rfl
  · rename_i tables work
    split
    · split
      · rfl
      · simp only [afterCommit, asStoreError, keep, work]
        rfl
    · rfl

theorem emptied_afterCommit (s : Store) (n : Nat) (c : Connection)
    (answer : Except StoreError Unit) :
    (s.afterCommit n c answer).emptied = s.emptied.afterCommit n c.emptied answer := by
  unfold afterCommit
  split
  · exact emptied_keep ..
  · exact emptied_putConnection ..
  · exact emptied_putConnection ..
  · rfl

/-- Rows decide whether a commit goes well. If two fail under one code, they fail in the same
way. -/
theorem commit_error_unique {e e' : StoreError} (first : (s.runCommand n .commit).1 = .error e)
    (second : (s'.runCommand n .commit).1 = .error e') (code : e.code? = e'.code?) : e = e' := by
  obtain ⟨f, mem, rfl⟩ := commit_error first
  obtain ⟨f', mem', rfl⟩ := commit_error second
  have apart : ∀ f ∈ commitFailures, ∀ f' ∈ commitFailures, f.code = f'.code → f = f' := by
    decide
  rw [apart f mem f' mem' (Option.some.inj code)]

theorem commit_leaves (same : s.emptied = s'.emptied)
    (answers : (s.runCommand n .commit).1 = (s'.runCommand n .commit).1) :
    (s.runCommand n .commit).2.emptied = (s'.runCommand n .commit).2.emptied := by
  rcases connections_of_emptied same n with ⟨here, there⟩ | ⟨c, c', here, there, equal⟩
  · rw [runCommand, here, runCommand, there]
    exact same
  · rw [runCommand_commit here, runCommand_commit there, emptied_afterCommit, emptied_afterCommit,
      same, equal, answers]

end Store

/-! ## Opening -/

def Location.emptied : Location → Location
  | .memory tables => .memory tables.emptied
  | .file path => .file path

theorem Location.emptied_placement (l : Location) : l.emptied.placement = l.placement := by
  cases l <;> rfl

theorem World.connect_emptied (s : Store) (l : Location) (o : StoreOptions) :
    connect s.emptied l.emptied o = (connect s l o).map fun r => (r.1, r.2.emptied) := by
  cases l with
  | memory tables => exact congrArg Except.ok (s.openPrivate_emptied tables o.foreignKeys)
  | file path => exact s.openPath_emptied path o.foreignKeys

end RecordStore
