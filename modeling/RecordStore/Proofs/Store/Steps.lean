import RecordStore.Proofs.Opening
import RecordStore.Proofs.Store.Tables

/-!
What a statement makes of a store. It changes its own connection and, outside a transaction or at
its end, the committed tables of that connection's file; all else stays.
-/
namespace RecordStore

open Sql

/-- What the commands about rows may make of the tables. -/
inductive Work.Changes (enforced : Bool) (w : Work) : Work → Prop
  | insert {t : Table} {assignments : List (ColumnName × Value)} {w' : Work} (mem : t ∈ w.tables)
      (ran : runInsert enforced w t assignments = .ok w') : Changes enforced w w'
  | update {t : Table} {assignments : List (ColumnName × Value)} {w' : Work} (mem : t ∈ w.tables)
      (parameters : List Value) (filter : Option Condition)
      (ran : runUpdate enforced t.layout.name assignments w (t.selected false parameters filter)
        = .ok w') : Changes enforced w w'
  | delete {t : Table} (mem : t ∈ w.tables) (parameters : List Value)
      (filter : Option Condition) :
      Changes enforced w (runDelete enforced t.layout.name w (t.selected false parameters filter))

theorem Work.Changes.lasts {enforced : Bool} {P : Tables → Prop} {w w' : Work}
    (changes : w.Changes enforced w') (lasts : Tables.Lasts P) (holds : P w.tables) :
    P w'.tables := by
  cases changes with
  | insert mem ran => exact lasts_runInsert lasts holds mem ran
  | update _ _ _ ran => exact lasts_runUpdate lasts holds ran
  | delete => exact lasts_runDelete lasts holds

/-- The connection has become another one on the same file, which works on the given tables with
so many open references, in a transaction or not. -/
structure Connection.Becomes (c : Connection) (transaction : Bool) (work : Option Tables)
    (openReferences : Int) (c' : Connection) : Prop where
  file : c'.file = c.file
  enforced : c'.enforced = c.enforced
  inTransaction : c'.inTransaction = transaction
  work : c'.work = work
  openReferences : c'.openReferences = openReferences
  medium : c'.medium = c.medium

/-- Outside a transaction there are neither tables of its own nor open references. -/
def Connection.IsSettled (c : Connection) : Prop :=
  c.inTransaction = false → c.work = none ∧ c.openReferences = 0

/-- But for its lock and its counts the connection is as it was. -/
def Connection.Stays (c c' : Connection) : Prop :=
  c.Becomes c.inTransaction c.work c.openReferences c'

namespace Connection

variable {c c' d : Connection} {transaction : Bool} {work : Option Tables}
  {openReferences : Int}

theorem Becomes.locked (becomes : c.Becomes transaction work openReferences c') (l : Lock) :
    c.Becomes transaction work openReferences (c'.locked l) where
  file := (c'.locked_file l).trans becomes.file
  enforced := (c'.locked_enforced l).trans becomes.enforced
  inTransaction := (c'.locked_inTransaction l).trans becomes.inTransaction
  work := (c'.locked_work l).trans becomes.work
  openReferences := (c'.locked_openReferences l).trans becomes.openReferences
  medium := (c'.locked_medium l).trans becomes.medium

theorem Stays.refl (c : Connection) : c.Stays c := ⟨rfl, rfl, rfl, rfl, rfl, rfl⟩

theorem becomes_released (c : Connection) : c.Becomes false none 0 c.released :=
  ⟨rfl, rfl, rfl, rfl, rfl, rfl⟩

theorem becomes_begun (c : Connection) (ts : Tables) (mode : TransactionMode) :
    ∃ work, (work = none ∨ work = some ts) ∧
      c.Becomes true work c.openReferences (c.begun ts mode) := by
  cases mode with
  | deferred => exact ⟨none, .inl rfl, rfl, rfl, rfl, rfl, rfl, rfl⟩
  | immediate | exclusive => exact ⟨some ts, .inr rfl, rfl, rfl, rfl, rfl, rfl, rfl⟩

theorem Stays.becomes (stays : c.Stays d) (becomes : d.Becomes transaction work openReferences c') :
    c.Becomes transaction work openReferences c' :=
  { becomes with
    file := becomes.file.trans stays.file
    enforced := becomes.enforced.trans stays.enforced
    medium := becomes.medium.trans stays.medium }

theorem Stays.trans (stays : c.Stays d) (still : d.Stays c') : c.Stays c' := by
  have becomes := stays.becomes still
  rw [stays.inTransaction, stays.work, stays.openReferences] at becomes
  exact becomes

theorem IsSettled.of_transaction (inside : c.inTransaction = true) : c.IsSettled :=
  fun outside => absurd (inside.symm.trans outside) (by decide)

theorem IsSettled.stays (settled : c.IsSettled) (stays : c.Stays c') : c'.IsSettled := by
  intro outside
  rw [stays.inTransaction] at outside
  obtain ⟨work, closed⟩ := settled outside
  exact ⟨stays.work.trans work, stays.openReferences.trans closed⟩

/-- The medium has no part in it. -/
theorem IsSettled.limited (settled : c.IsSettled) (stays : c.Stays { c' with medium := c.medium }) :
    c'.IsSettled := by
  have kept := settled.stays stays
  exact kept

theorem Becomes.isSettled (becomes : c.Becomes transaction none 0 c') : c'.IsSettled :=
  fun _ => ⟨becomes.work, becomes.openReferences⟩

end Connection

namespace Store

/-- What a statement on the connection may make of the store. -/
inductive Steps (s : Store) (n : Nat) (c : Connection) : Store → Prop
  | refused : Steps s n c s
  | stays {c' : Connection} : c.Stays c' → Steps s n c (s.putConnection n c')
  | begins {c' : Connection} {work : Option Tables} : c.inTransaction = false →
      work = none ∨ work = some (s.committed c.file) →
      c.Becomes true work c.openReferences c' → Steps s n c (s.putConnection n c')
  | holds {c' : Connection} : c.inTransaction = true →
      c.Becomes true (some (s.visible c)) c.openReferences c' → Steps s n c (s.putConnection n c')
  | works {c' : Connection} {w : Work} : c.inTransaction = true →
      Work.Changes c.enforced ⟨s.visible c, c.openReferences⟩ w →
      c.Becomes true (some w.tables) w.openReferences c' → Steps s n c (s.putConnection n c')
  | settles {c' : Connection} {w : Work} : c.inTransaction = false →
      Work.Changes c.enforced ⟨s.visible c, c.openReferences⟩ w → w.openReferences ≤ 0 →
      c.Stays c' → Steps s n c ((s.putTables c.file w.tables).putConnection n c')
  | keeps {c' : Connection} {ts : Tables} : c.work = some ts → c.openReferences ≤ 0 →
      c.Becomes false none 0 c' → Steps s n c ((s.putTables c.file ts).putConnection n c')
  | releases {c' : Connection} : c.Becomes false none 0 c' → Steps s n c (s.putConnection n c')
  | limits {c' : Connection} : s.isPlaced c.file = true → c.Stays { c' with medium := c.medium } →
      Steps s n c (s.putConnection n c')

variable {s s' : Store} {n : Nat} {c d : Connection}

/-- A connection is looked at for nothing but what stays. -/
theorem Steps.of_stays (stays : c.Stays d) (steps : (s.putConnection n d).Steps n d s') :
    s.Steps n c s' := by
  have visible : (s.putConnection n d).visible d = s.visible c :=
    visible_eq s stays.file stays.work
  have settled (ts : Tables) (c' : Connection) :
      ((s.putConnection n d).putTables d.file ts).putConnection n c'
        = (s.putTables c.file ts).putConnection n c' := by
    rw [stays.file]
    exact putConnection_putConnection (s.putTables c.file ts) n d c'
  cases steps with
  | refused => exact .stays stays
  | stays still =>
    rw [putConnection_putConnection]
    exact .stays (stays.trans still)
  | begins outside work becomes =>
    rw [putConnection_putConnection]
    rw [stays.inTransaction] at outside
    rw [committed_putConnection, stays.file] at work
    rw [stays.openReferences] at becomes
    exact .begins outside work (stays.becomes becomes)
  | holds inside becomes =>
    rw [putConnection_putConnection]
    rw [stays.inTransaction] at inside
    rw [visible, stays.openReferences] at becomes
    exact .holds inside (stays.becomes becomes)
  | works inside changes becomes =>
    rw [putConnection_putConnection]
    rw [stays.inTransaction] at inside
    rw [visible, stays.openReferences, stays.enforced] at changes
    exact .works inside changes (stays.becomes becomes)
  | settles outside changes closed still =>
    rw [settled]
    rw [stays.inTransaction] at outside
    rw [visible, stays.openReferences, stays.enforced] at changes
    exact .settles outside changes closed (stays.trans still)
  | keeps work closed becomes =>
    rw [settled]
    rw [stays.work] at work
    rw [stays.openReferences] at closed
    exact .keeps work closed (stays.becomes becomes)
  | releases becomes =>
    rw [putConnection_putConnection]
    exact .releases (stays.becomes becomes)
  | limits placed still =>
    rw [putConnection_putConnection]
    rw [stays.medium] at still
    exact .limits (stays.file ▸ placed) (stays.trans still)

/-! ## Statements -/

theorem steps_undo (cause : Failure) : s.Steps n c (s.undo n c cause).2 := by
  have locked := (Connection.Stays.refl c).locked .reserved
  unfold Store.undo
  dsimp only
  split
  · rename_i inside
    rw [locked.inTransaction] at inside
    exact .holds inside ⟨locked.file, locked.enforced, locked.inTransaction.trans inside, rfl,
      locked.openReferences, locked.medium⟩
  · exact .stays ⟨locked.file, locked.enforced, locked.inTransaction, locked.work,
      locked.openReferences, locked.medium⟩

theorem steps_setBack (e : MediumError) : s.Steps n c (s.setBack n c e).2 := by
  dsimp only [Store.setBack]
  split
  · exact .releases ⟨rfl, rfl, rfl, rfl, rfl, rfl⟩
  · exact .stays ⟨rfl, rfl, rfl, rfl, rfl, rfl⟩

theorem steps_complete {w : Work}
    (changes : Work.Changes c.enforced ⟨s.visible c, c.openReferences⟩ w)
    (count : Nat) : s.Steps n c (s.complete n c w count).2 := by
  have counted (count : Nat) : s.Steps n c (s.putConnection n { c with changes := count }) :=
    .stays ⟨rfl, rfl, rfl, rfl, rfl, rfl⟩
  have locked := (Connection.Stays.refl c).locked .reserved
  unfold Store.complete
  split
  · rename_i inside
    exact .works inside changes ⟨locked.file, locked.enforced,
      locked.inTransaction.trans inside, rfl, rfl, locked.medium⟩
  rename_i outside
  split
  · exact counted 0
  rename_i closed
  split
  · exact counted 0
  split
  · exact steps_setBack _
  · exact .settles (Bool.eq_false_iff.mpr outside) changes (Int.not_lt.mp closed)
      ⟨rfl, rfl, rfl, rfl, rfl, rfl⟩

theorem steps_write {journaled : Bool} {change : Work → Except Failure (Work × Nat)}
    (changed : ∀ w count, change ⟨s.visible c, c.openReferences⟩ = .ok (w, count) →
      Work.Changes c.enforced ⟨s.visible c, c.openReferences⟩ w) :
    s.Steps n c (s.write n c journaled change).2 := by
  unfold Store.write
  split
  · exact .stays ⟨rfl, rfl, rfl, rfl, rfl, rfl⟩
  split
  · exact steps_undo _
  · rename_i w count ran
    split
    · split
      · exact steps_undo _
      · exact steps_setBack _
    · exact steps_complete (changed w count ran) count

theorem steps_readRows (columns : Option (List ColumnName)) (t : Table)
    (parameters : List Value) (filter : Option Condition) :
    s.Steps n c (s.readRows n c columns t parameters filter).2 := by
  unfold Store.readRows
  split
  · exact .refused
  · exact .stays ((Connection.Stays.refl c).locked .shared)

theorem steps_begin (mode : TransactionMode) : s.Steps n c (s.begin n c mode).2 := by
  rw [begin_eq]
  split
  · exact .refused
  split
  · exact .refused
  · rename_i outside
    obtain ⟨work, taken, becomes⟩ := c.becomes_begun (s.committed c.file) mode
    exact .begins (Bool.eq_false_iff.mpr outside) taken becomes

theorem steps_commit : s.Steps n c (s.commit n c).2 := by
  unfold Store.commit
  split
  · exact .refused
  split
  · exact .refused
  rename_i closed
  split
  · exact .releases c.becomes_released
  · rename_i ts work
    split
    · split
      · exact .releases c.becomes_released
      · exact .keeps work (Int.not_lt.mp closed) c.becomes_released
    · exact .stays ⟨rfl, rfl, rfl, rfl, rfl, rfl⟩

theorem steps_rollback : s.Steps n c (s.rollback n c).2 := by
  unfold Store.rollback
  split
  · exact .refused
  · exact .releases c.becomes_released

theorem steps_limitPages (limit : Nat) : s.Steps n c (s.limitPages n c limit).2 := by
  have locked := (Connection.Stays.refl c).locked .shared
  have known : c.Stays { c.locked .shared with knowsTables := true } :=
    ⟨locked.file, locked.enforced, locked.inTransaction, locked.work, locked.openReferences,
      locked.medium⟩
  unfold Store.limitPages
  split
  · exact .refused
  rename_i placed
  split
  · exact .refused
  · exact .limits (by simpa using placed) { known with medium := rfl }

theorem steps_step (command : Command) (parameters : List Value) :
    s.Steps n c (s.step n c command parameters).2 := by
  cases command with
  | select columns name filter =>
    dsimp only [Store.step]
    split
    · exact .refused
    · exact steps_readRows ..
  | insert name columns values =>
    dsimp only [Store.step]
    split
    · exact .refused
    · rename_i t found
      refine steps_write fun w count ran => ?_
      obtain ⟨w₁, inserted, done⟩ := bind_eq_ok ran
      cases Except.ok.inj done
      exact .insert (Tables.mem_of_table? found) inserted
  | update name assignments filter =>
    dsimp only [Store.step]
    split
    · exact .refused
    · rename_i t found
      refine steps_write fun w count ran => ?_
      obtain ⟨w₁, updated, done⟩ := bind_eq_ok ran
      cases Except.ok.inj done
      exact .update (Tables.mem_of_table? found) _ filter updated
  | delete name filter =>
    dsimp only [Store.step]
    split
    · exact .refused
    · rename_i t found
      refine steps_write fun w count ran => ?_
      cases ran
      exact .delete (Tables.mem_of_table? found) _ filter
  | begin mode => exact steps_begin mode
  | commit => exact steps_commit
  | rollback => exact steps_rollback
  | limitPages limit => exact steps_limitPages limit
  | nothing => exact .refused

theorem stays_prepare (s : Store) (n : Nat) (c : Connection) (sql : String) :
    c.Stays (s.prepare n c sql).2 := by
  unfold prepare
  split
  · exact .refl c
  split
  · exact .refl c
  split
  · exact .refl c
  · dsimp only
    split
    · exact ⟨rfl, rfl, rfl, rfl, rfl, rfl⟩
    · exact ⟨rfl, rfl, rfl, rfl, rfl, rfl⟩

theorem steps_run (conn : s.connection? n = some c) (sql : String) (parameters : List Value) :
    s.Steps n c (s.run n sql parameters).2 := by
  have prepared := s.stays_prepare n c sql
  rw [Store.run, conn]
  dsimp only
  split
  · exact .stays prepared
  · split
    · exact .stays prepared
    · exact .of_stays prepared (steps_step _ parameters)

theorem steps_runBatch (conn : s.connection? n = some c) (sql : String) :
    s.Steps n c (s.runBatch n sql).2 := by
  have prepared := s.stays_prepare n c sql
  rw [Store.runBatch, conn]
  dsimp only
  split
  · exact .stays prepared
  · exact .stays prepared
  · exact .of_stays prepared (steps_step _ [])

theorem steps_runCommand (conn : s.connection? n = some c) (command : Command) :
    s.Steps n c (s.runCommand n command).2 := by
  rw [Store.runCommand, conn]
  exact steps_step command []

end Store

end RecordStore
