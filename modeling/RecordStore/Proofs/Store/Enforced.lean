import RecordStore.Proofs.Session.Endings
import RecordStore.Proofs.Store.Balance
import RecordStore.Proofs.Store.Private

/-!
Files on which every connection enforces foreign keys. A property of tables and their balance
that the changes of such connections keep holds of whatever they work on and of whatever they
commit.
-/
namespace RecordStore

open Sql

/-- The connection enforces foreign keys, and what it works on has the property. -/
structure Connection.Keeps (P : Work → Prop) (c : Connection) : Prop where
  enforced : c.enforced = true
  settled : c.IsSettled
  untouched : c.work = none → c.openReferences = 0
  working : ∀ ts, c.work = some ts → P ⟨ts, c.openReferences⟩

structure Store.Enforces (P : Work → Prop) (s : Store) (file : Nat) : Prop where
  committed : P ⟨s.committed file, 0⟩
  connections : ∀ n c, s.connection? n = some c → c.file = file → c.Keeps P
  /-- Tables without an open reference may be committed. -/
  closes : ∀ ts count, P ⟨ts, count⟩ → count ≤ 0 → P ⟨ts, 0⟩

variable {P : Work → Prop} {s s' : Store} {file n : Nat} {c c' : Connection}

namespace Connection

theorem Keeps.stays (keeps : c.Keeps P) (stays : c.Stays c') : c'.Keeps P where
  enforced := stays.enforced.trans keeps.enforced
  settled := keeps.settled.stays stays
  untouched none := stays.openReferences.trans (keeps.untouched (stays.work.symm.trans none))
  working ts work := by
    rw [stays.openReferences]
    exact keeps.working ts (stays.work.symm.trans work)

theorem Keeps.limited (keeps : c.Keeps P) (stays : c.Stays { c' with medium := c.medium }) :
    c'.Keeps P := by
  have kept := keeps.stays stays
  exact { kept with }

theorem Keeps.ends (keeps : c.Keeps P) (becomes : c.Becomes false none 0 c') : c'.Keeps P where
  enforced := becomes.enforced.trans keeps.enforced
  settled := becomes.isSettled
  untouched _ := becomes.openReferences
  working _ work := absurd (becomes.work.symm.trans work) (Option.some_ne_none _).symm

/-- A connection in a transaction takes tables into work. -/
theorem Keeps.takes (keeps : c.Keeps P) {ts : Tables} {count : Int} (holds : P ⟨ts, count⟩)
    (becomes : c.Becomes true (some ts) count c') : c'.Keeps P where
  enforced := becomes.enforced.trans keeps.enforced
  settled := .of_transaction becomes.inTransaction
  untouched none := absurd (becomes.work.symm.trans none) (Option.some_ne_none ts)
  working us given := by
    cases Option.some.inj (becomes.work.symm.trans given)
    rwa [becomes.openReferences]

theorem Keeps.begins (keeps : c.Keeps P) (closed : c.openReferences = 0) {ts : Tables}
    (holds : P ⟨ts, 0⟩) {work : Option Tables} (taken : work = none ∨ work = some ts)
    (becomes : c.Becomes true work c.openReferences c') : c'.Keeps P where
  enforced := becomes.enforced.trans keeps.enforced
  settled := .of_transaction becomes.inTransaction
  untouched _ := becomes.openReferences.trans closed
  working us given := by
    rw [becomes.openReferences, closed]
    rw [becomes.work] at given
    rcases taken with none | begun
    · cases none.symm.trans given
    · cases Option.some.inj (begun.symm.trans given)
      exact holds

theorem keeps_fresh (file : Nat) : (fresh file true).Keeps P where
  enforced := rfl
  settled _ := ⟨rfl, rfl⟩
  untouched _ := rfl
  working := nofun

end Connection

namespace Store

theorem Enforces.sees (holds : s.Enforces P file) (keeps : c.Keeps P) (on : c.file = file) :
    P ⟨s.visible c, c.openReferences⟩ := by
  unfold visible
  cases work : c.work with
  | none =>
    rw [keeps.untouched work, on]
    exact holds.committed
  | some ts => exact keeps.working ts work

theorem Enforces.put (holds : s.Enforces P file) (keeps : c.Keeps P) (n : Nat) :
    (s.putConnection n c).Enforces P file where
  committed := holds.committed
  connections m d conn on := by
    rw [connection?, putConnection, lookup_putConnection] at conn
    obtain ⟨d', found, rfl⟩ := Option.map_eq_some_iff.mp conn
    split
    · exact keeps
    · rename_i apart
      rw [if_neg apart] at on
      exact holds.connections m d' found on
  closes := holds.closes

theorem Enforces.settle (holds : s.Enforces P file) {ts : Tables} (new : P ⟨ts, 0⟩) :
    (s.putTables file ts).Enforces P file where
  committed := by
    rcases committed_putTables_cases s file ts with same | same
    · rwa [same]
    · rw [same]
      exact holds.committed
  connections := holds.connections
  closes := holds.closes

theorem Enforces.close (holds : s.Enforces P file) (n : Nat) : (s.close n).Enforces P file where
  committed := holds.committed
  connections m d conn := by
    rw [connection?_close] at conn
    split at conn
    · cases conn
    · exact holds.connections m d conn
  closes := holds.closes

theorem Enforces.connect (holds : s.Enforces P file)
    (unused : s.connection? s.nextConnection = none) :
    (s.connect file true).2.Enforces P file where
  committed := holds.committed
  connections m d conn on := by
    rw [connection?_connect unused] at conn
    split at conn
    · cases conn
      exact Connection.keeps_fresh file
    · exact holds.connections m d conn on
  closes := holds.closes

theorem Enforces.keep (holds : s.Enforces P file) (keeps : c.Keeps P) (on : c.file = file)
    (closed : c.openReferences ≤ 0) (n : Nat) : (s.keep n c).Enforces P file := by
  subst on
  unfold Store.keep
  split
  · exact holds.put (keeps.ends c.becomes_released) n
  · rename_i ts work
    have settled := holds.settle (holds.closes ts _ (keeps.working ts work) closed)
    exact settled.put (keeps.ends c.becomes_released) n

/-- What is worked on and what is committed has the property after a statement if its changes
keep it. -/
theorem Enforces.steps (holds : s.Enforces P file) (keeps : c.Keeps P) (on : c.file = file)
    (changed : ∀ w, Work.Changes true ⟨s.visible c, c.openReferences⟩ w → P w)
    (steps : s.Steps n c s') : s'.Enforces P file := by
  have sees := holds.sees keeps on
  rw [← keeps.enforced] at changed
  cases steps with
  | refused => exact holds
  | stays stays => exact holds.put (keeps.stays stays) n
  | begins outside taken becomes =>
    rw [on] at taken
    exact holds.put (keeps.begins (keeps.settled outside).2 holds.committed taken becomes) n
  | holds _ becomes => exact holds.put (keeps.takes sees becomes) n
  | works _ changes becomes => exact holds.put (keeps.takes (changed _ changes) becomes) n
  | settles _ changes closed stays =>
    subst on
    exact (holds.settle (holds.closes _ _ (changed _ changes) closed)).put (keeps.stays stays) n
  | keeps work closed becomes =>
    subst on
    exact (holds.settle (holds.closes _ _ (keeps.working _ work) closed)).put
      (keeps.ends becomes) n
  | releases becomes => exact holds.put (keeps.ends becomes) n
  | limits _ stays => exact holds.put (keeps.limited stays) n

end Store

end RecordStore
