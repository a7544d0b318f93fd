import RecordStore.Proofs.Opening
import RecordStore.Proofs.Store.Places
import RecordStore.Proofs.Store.Steps
import RecordStore.Proofs.Store.Transactions

/-!
A connection with a database of its own. Whatever it is asked, inside a transaction or not, its
tables keep their layouts and every row keeps a key of its own.
-/
namespace RecordStore

open Sql

namespace Store

/-- The connection has a file without a place to itself, and the tables there have the given
layouts. -/
structure IsPrivate (layouts : List TableLayout) (s : Store) (id : Nat) (c : Connection) :
    Prop where
  connected : s.connection? id = some c
  alone : ∀ l, s.othersHold id c.file l = false
  inside : c.file < s.files.length
  unplaced : s.isPlaced c.file = false
  reliable : c.medium = .reliable
  settled : c.IsSettled
  committed : (s.committed c.file).AreOf layouts
  sees : (s.visible c).AreOf layouts

variable {layouts : List TableLayout} {s s' : Store} {id : Nat} {c c' : Connection}

theorem IsPrivate.put (own : IsPrivate layouts s id c) (file : c'.file = c.file)
    (medium : c'.medium = c.medium) (settled : c'.IsSettled) (sees : (s.visible c').AreOf layouts) :
    IsPrivate layouts (s.putConnection id c') id c' where
  connected := connection?_putConnection_self own.connected c'
  alone := by simpa [file] using own.alone
  inside := by
    rw [file]
    exact own.inside
  unplaced := by
    rw [file]
    exact own.unplaced
  reliable := medium.trans own.reliable
  settled := settled
  committed := by simpa [file] using own.committed
  sees := sees

/-- A change of the connection that leaves its file and its tables alone. -/
theorem IsPrivate.touch (own : IsPrivate layouts s id c) (file : c'.file = c.file)
    (work : c'.work = c.work) (medium : c'.medium = c.medium) (settled : c'.IsSettled) :
    IsPrivate layouts (s.putConnection id c') id c' :=
  own.put file medium settled (by rw [visible_eq s file work]; exact own.sees)

theorem committed_putTables_cases (s : Store) (file : Nat) (ts : Tables) :
    (s.putTables file ts).committed file = ts ∨
      (s.putTables file ts).committed file = s.committed file := by
  by_cases inside : file < s.files.length
  · simp [committed, putTables, inside]
  · simp [committed, putTables, inside]

/-- A commit of tables. What the connection works on is given up, or stays as it was. -/
theorem IsPrivate.settle (own : IsPrivate layouts s id c) {ts : Tables} (are : ts.AreOf layouts)
    (file : c'.file = c.file) (work : c'.work = none ∨ c'.work = c.work)
    (medium : c'.medium = c.medium) (settled : c'.IsSettled) :
    IsPrivate layouts ((s.putTables c.file ts).putConnection id c') id c' := by
  have committed : ((s.putTables c.file ts).committed c'.file).AreOf layouts := by
    rw [file]
    rcases committed_putTables_cases s c.file ts with new | old
    · rwa [new]
    · rw [old]
      exact own.committed
  have sees : ((s.putTables c.file ts).visible c').AreOf layouts := by
    cases given : c'.work with
    | none => simpa [visible, given] using committed
    | some tables =>
      have held : some tables = c.work := by simpa [given] using work
      simpa [visible, given, ← held] using own.sees
  have conn : (s.putTables c.file ts).connection? id = some c := own.connected
  constructor
  · exact connection?_putConnection_self conn c'
  · intro l
    rw [othersHold_putConnection, file]
    exact own.alone l
  · rw [file]
    exact (List.length_modify ..).symm ▸ own.inside
  · rw [file]
    exact (isPlaced_congr (places_putTables s c.file ts) c.file).trans own.unplaced
  · exact medium.trans own.reliable
  · exact settled
  · exact committed
  · exact sees

theorem isPrivate_openPrivate {tables : Tables} (numbered : s.IsNumbered)
    (are : tables.AreOf layouts) (enforced : Bool) :
    IsPrivate layouts (s.openPrivate tables enforced).2 s.nextConnection
      (.fresh s.files.length enforced) := by
  have committed : (s.openPrivate tables enforced).2.committed s.files.length = tables := by
    simp [Store.committed, openPrivate, connect, addFile]
  exact
    { connected := connection?_openPrivate numbered tables enforced
      alone := othersHold_openPrivate numbered tables enforced
      inside := by simp [openPrivate, connect, addFile, Connection.fresh]
      unplaced := by simp [isPlaced, openPrivate, connect, addFile, Connection.fresh]
      reliable := rfl
      settled := fun _ => ⟨rfl, rfl⟩
      committed := by
        rw [← committed] at are
        exact are
      sees := by
        rw [← committed] at are
        exact are }

/-! ## Statements -/

/-- Whatever a statement makes of the store, the connection keeps its database in order. -/
theorem IsPrivate.steps (own : IsPrivate layouts s id c)
    (named : (layouts.map TableLayout.name).Nodup) (steps : s.Steps id c s') :
    ∃ c', IsPrivate layouts s' id c' := by
  have lasts := Tables.lasts_areOf named
  cases steps with
  | refused => exact ⟨c, own⟩
  | stays stays => exact ⟨_, own.touch stays.file stays.work stays.medium (own.settled.stays stays)⟩
  | begins _ work becomes =>
    refine ⟨_, own.put becomes.file becomes.medium (.of_transaction becomes.inTransaction) ?_⟩
    rw [visible, becomes.work, becomes.file]
    rcases work with rfl | rfl
    · exact own.committed
    · exact own.committed
  | holds _ becomes =>
    refine ⟨_, own.put becomes.file becomes.medium (.of_transaction becomes.inTransaction) ?_⟩
    rw [visible, becomes.work]
    exact own.sees
  | works _ changes becomes =>
    refine ⟨_, own.put becomes.file becomes.medium (.of_transaction becomes.inTransaction) ?_⟩
    rw [visible, becomes.work]
    exact changes.lasts lasts own.sees
  | settles _ changes _ stays =>
    exact ⟨_, own.settle (changes.lasts lasts own.sees) stays.file (.inr stays.work) stays.medium
      (own.settled.stays stays)⟩
  | keeps work _ becomes =>
    have are := own.sees
    rw [visible, work] at are
    exact ⟨_, own.settle are becomes.file (.inl becomes.work) becomes.medium becomes.isSettled⟩
  | releases becomes =>
    refine ⟨_, own.put becomes.file becomes.medium becomes.isSettled ?_⟩
    rw [visible, becomes.work, becomes.file]
    exact own.committed
  | limits placed =>
    rw [own.unplaced] at placed
    cases placed

end Store

end RecordStore
