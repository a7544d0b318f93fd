import RecordStore.Proofs.Session.Replies
import RecordStore.Proofs.Store.Failing

/-!
Requests to a unit that is open. As long as no statement of the caller's own ends the transaction,
the connection stays inside it, unless the medium fails and takes the transaction with it. The
unit remembers such a failure, but it stays open, and its calls go on outside of a transaction.
-/
namespace RecordStore

open Sql

/-- All commands but those that end a transaction when they succeed. -/
def Sql.Command.KeepsTransaction : Command → Prop
  | .commit | .rollback => False
  | _ => True

/-- Statements of the caller's own are taken as they come. Here each is known to be read as such a
command. -/
def Request.ReadsAs (Is : Command → Prop) : Request → Prop
  | execute _ _ statement | query _ _ _ statement =>
    ∃ command, Command.read (scan statement.sql) = .ok command ∧ Is command
  | _ => True

theorem Sql.Command.IsPlain.keepsTransaction {command : Command} (plain : command.IsPlain) :
    command.KeepsTransaction := by
  cases command with
  | commit | rollback | limitPages => exact plain.elim
  | select | insert | update | delete | begin | nothing => trivial

theorem Request.ReadsAs.mono {Is Is' : Command → Prop} {request : Request}
    (reads : request.ReadsAs Is) (weaker : ∀ command, Is command → Is' command) :
    request.ReadsAs Is' := by
  cases request with
  | execute operation entity statement | query operation entity ofRow statement =>
    obtain ⟨command, read, is⟩ := reads
    exact ⟨command, read, weaker command is⟩
  | call | commit | rollback | dispose => trivial

/-- A statement has failed because the medium did. -/
def RepositoryError.IsOfMedium : RepositoryError → Prop
  | .execution f => f.error.IsOfMedium
  | _ => False

def FailsByMedium {β : Type} (answer : Except RepositoryError β) : Prop :=
  ∃ e, answer = .error e ∧ e.IsOfMedium

theorem FailsByMedium.isExecution {β : Type} {answer : Except RepositoryError β}
    (fails : FailsByMedium answer) : ∃ f, answer = .error (.execution f) := by
  obtain ⟨e, failed, of_medium⟩ := fails
  cases e with
  | execution f => exact ⟨f, failed⟩
  | _ => exact of_medium.elim

namespace Store

variable {β γ : Type} {s : Store} {n : Nat} {c : Connection}

/-- The connection stays inside its transaction, or the medium has failed. -/
def StaysInside (s : Store) (n : Nat) (c : Connection) (outcome : Except StoreError β × Store) :
    Prop :=
  ∃ c', outcome.2 = s.putConnection n c' ∧ c'.file = c.file ∧
    (c'.inTransaction = true ∨
      c.medium ≠ .reliable ∧ ∃ e, outcome.1 = .error e ∧ e.IsOfMedium)

theorem Repeats.staysInside {stands : Store → Nat → Prop}
    {ask : Store → Nat → Except StoreError β × Store}
    (repeats : Repeats StoreError.IsOfMedium stands c ask) (here : stands s n) :
    s.StaysInside n c (ask s n) := by
  obtain ⟨c', store, file, _, goes_on, _⟩ := repeats s n here
  exact ⟨c', store, file, goes_on.imp_right fun ⟨unreliable, _, failed⟩ => ⟨unreliable, failed⟩⟩

theorem StaysInside.of_errors {outcome : Except StoreError β × Store}
    {outcome' : Except StoreError γ × Store} (stays : s.StaysInside n c outcome)
    (same : outcome'.2 = outcome.2) (errors : ∀ e, outcome.1 = .error e → outcome'.1 = .error e) :
    s.StaysInside n c outcome' := by
  obtain ⟨c', store, file, goes_on⟩ := stays
  exact ⟨c', same.trans store, file, goes_on.imp_right fun ⟨unreliable, e, failed, of_medium⟩ =>
    ⟨unreliable, e, errors e failed, of_medium⟩⟩

/-- A new limit is a matter of the medium. -/
theorem limitPages_cases (s : Store) (n : Nat) (c : Connection) (limit : Nat) :
    (s.limitPages n c limit).2 = s ∨ ∃ c', (s.limitPages n c limit).2 = s.putConnection n c' ∧
      c'.file = c.file ∧ c'.inTransaction = c.inTransaction := by
  unfold limitPages
  split
  · exact .inl rfl
  split
  · exact .inl rfl
  · exact .inr ⟨_, rfl, c.locked_file _, c.locked_inTransaction _⟩

variable {sql : String}

theorem staysInside_run {command : Command} (read : Command.read (scan sql) = .ok command)
    (keeps : command.KeepsTransaction) (conn : s.connection? n = some c)
    (transaction : c.inTransaction = true) (parameters : List Value) :
    s.StaysInside n c (s.run n sql parameters) := by
  cases command with
  | commit | rollback => exact keeps.elim
  | limitPages limit =>
    rw [run_tableless read rfl conn]
    split
    · rcases (s.putConnection n c).limitPages_cases n c limit with same | ⟨c', moved, file, inside⟩
      · exact ⟨c, same, rfl, .inl transaction⟩
      · exact ⟨c', moved.trans (putConnection_putConnection ..), file,
          .inl (inside.trans transaction)⟩
    · exact ⟨c, rfl, rfl, .inl transaction⟩
  | select | insert | update | delete | begin | nothing =>
    have plain : IsPlain sql := by
      intro command' read'
      cases Except.ok.inj (read.symm.trans read')
      trivial
    exact (repeats_run plain parameters transaction).staysInside conn

theorem staysInside_execute {command : Command} (read : Command.read (scan sql) = .ok command)
    (keeps : command.KeepsTransaction) (conn : s.connection? n = some c)
    (transaction : c.inTransaction = true) (parameters : List Value) :
    s.StaysInside n c (s.execute n sql parameters) :=
  (staysInside_run read keeps conn transaction parameters).of_errors rfl fun e failed => by
    simp only [execute, failed]

theorem staysInside_query {command : Command} (read : Command.read (scan sql) = .ok command)
    (keeps : command.KeepsTransaction) (conn : s.connection? n = some c)
    (transaction : c.inTransaction = true) (parameters : List Value) :
    s.StaysInside n c (s.query n sql parameters) :=
  (staysInside_run read keeps conn transaction parameters).of_errors rfl fun e failed => by
    simp only [query, failed]

/-! ### Outside of a transaction -/

/-- The connection is there, and in no transaction. -/
def IsOutside (s : Store) (n : Nat) : Prop :=
  ∃ c, s.connection? n = some c ∧ c.inTransaction = false

theorem isOutside_put (conn : s.connection? n = some c) {c' : Connection}
    (outside : c'.inTransaction = false) : (s.putConnection n c').IsOutside n :=
  ⟨c', connection?_putConnection_self conn c', outside⟩

theorem isOutside_undo (conn : s.connection? n = some c) (outside : c.inTransaction = false)
    (cause : Failure) : (s.undo n c cause).2.IsOutside n := by
  have locked := (c.locked_inTransaction .reserved).trans outside
  dsimp only [undo]
  rw [if_neg (by simp [outside])]
  exact isOutside_put conn locked

theorem isOutside_setBack (conn : s.connection? n = some c) (outside : c.inTransaction = false)
    (e : MediumError) : (s.setBack n c e).2.IsOutside n := by
  dsimp only [setBack]
  rw [if_neg (by simp [outside])]
  exact isOutside_put conn outside

theorem isOutside_complete (conn : s.connection? n = some c) (outside : c.inTransaction = false)
    (w : Work) (count : Nat) : (s.complete n c w count).2.IsOutside n := by
  unfold complete
  rw [if_neg (by simp [outside])]
  split
  · exact isOutside_put conn outside
  split
  · exact isOutside_put conn outside
  split
  · exact isOutside_setBack conn outside _
  · exact isOutside_put (s := s.putTables c.file w.tables) conn outside

theorem isOutside_write (conn : s.connection? n = some c) (outside : c.inTransaction = false)
    (journaled : Bool) (change : Work → Except Failure (Work × Nat)) :
    (s.write n c journaled change).2.IsOutside n := by
  unfold write
  split
  · exact isOutside_put conn outside
  split
  · exact isOutside_undo conn outside _
  split
  · split
    · exact isOutside_undo conn outside _
    · exact isOutside_setBack conn outside _
  · exact isOutside_complete conn outside ..

theorem isOutside_readRows (conn : s.connection? n = some c) (outside : c.inTransaction = false)
    (columns : Option (List ColumnName)) (t : Table) (parameters : List Value)
    (filter : Option Condition) :
    (s.readRows n c columns t parameters filter).2.IsOutside n := by
  unfold readRows
  split
  · exact ⟨c, conn, outside⟩
  · exact isOutside_put conn ((c.locked_inTransaction .shared).trans outside)

theorem isOutside_step {command : Command} {name : String} (table : command.table? = some name)
    (conn : s.connection? n = some c) (outside : c.inTransaction = false)
    (parameters : List Value) : (s.step n c command parameters).2.IsOutside n := by
  cases command with
  | begin | commit | rollback | limitPages | nothing => cases table
  | select columns name filter =>
    dsimp only [step]
    split
    · exact ⟨c, conn, outside⟩
    · exact isOutside_readRows conn outside ..
  | insert | update | delete =>
    dsimp only [step]
    split
    · exact ⟨c, conn, outside⟩
    · exact isOutside_write conn outside ..

/-- A statement about rows begins no transaction. -/
theorem isOutside_run (about : IsAboutRows sql) (conn : s.connection? n = some c)
    (outside : c.inTransaction = false) (parameters : List Value) :
    (s.run n sql parameters).2.IsOutside n := by
  rcases run_cases about conn parameters with
    ⟨e, knows, ran, _⟩ | ⟨command, name, t, _, table, _, _, ran⟩
  · rw [ran]
    exact isOutside_put conn outside
  · let known : Connection := { c with knowsTables := true }
    rw [ran, asStoreError]
    exact isOutside_step (c := known) table (connection?_putConnection_self conn known) outside
      parameters

end Store

namespace Call

variable {call : Call} {mode : FilterMode} {d : Descriptor} {statement : Statement}

theorem isAboutRows_of_prepare (prepared : call.prepare mode = .ok (d, statement)) :
    IsAboutRows statement.sql := by
  obtain ⟨d', _, prepared⟩ := bind_eq_ok prepared
  obtain ⟨f, _, prepared⟩ := bind_eq_ok prepared
  obtain ⟨statement', built, prepared⟩ := bind_eq_ok prepared
  cases Except.ok.inj prepared
  have built := mapError_eq_ok.mp built
  cases call with
  | getAll r p | get r p =>
    cases built
    exact Statement.isAboutRows_select d f
  | create r model => exact (Statement.isChange_insert built).isAboutRows
  | update r model p => exact (Statement.isChange_update built).isAboutRows
  | delete r p =>
    cases built
    exact (Statement.isChange_delete d f).isAboutRows

theorem ask_store (call : Call) (statement : Statement) (s : Store) (n : Nat) :
    (call.ask statement s n).2 = (s.run n statement.sql statement.parameters).2 := by
  cases call <;> rfl

/-- Where the transaction has ended behind the unit's back, a call does not begin another. -/
theorem isOutside_run {u : UnitOfWork} {w : World} {n : Nat} {c : Connection}
    (opened : u.openConnection? = some n) (conn : w.store.connection? n = some c)
    (outside : c.inTransaction = false) (call : Call) :
    (call.run u w).world.store.IsOutside n := by
  rw [(call.gives_reply u w).store, reply]
  cases prepared : call.prepare u.filterMode with
  | error e => exact ⟨c, conn, outside⟩
  | ok both =>
    obtain ⟨d, statement⟩ := both
    simp only [UnitOfWork.reply, opened, ask_store]
    exact Store.isOutside_run (isAboutRows_of_prepare prepared) conn outside _

end Call

namespace UnitOfWork

variable {β γ : Type} {u : UnitOfWork} {w : World} {n : Nat} {c : Connection}

/-- The unit goes on. So does the transaction of its connection, unless the medium has failed. -/
structure GoesOn {β : Type} (n : Nat) (c : Connection) (u : UnitOfWork) (w : World)
    (step : UnitStep β) : Prop where
  remembers : u.Remembers step
  moved : step.world.store = w.store ∨ ∃ c', step.world.store = w.store.putConnection n c' ∧
    c'.file = c.file ∧
    (c'.inTransaction = true ∨ c.medium ≠ .reliable ∧ FailsByMedium step.answer)

theorem GoesOn.of_asked {step : UnitStep β} {outcome : Except StoreError γ × Store}
    (remembers : u.Remembers step) (stays : w.store.StaysInside n c outcome)
    (store : step.world.store = outcome.2)
    (fails : ∀ e, outcome.1 = .error e → ∃ f, step.answer = .error (.execution f) ∧ f.error = e) :
    GoesOn n c u w step where
  remembers := remembers
  moved := by
    obtain ⟨c', moved, file, goes_on⟩ := stays
    refine .inr ⟨c', store.trans moved, file, goes_on.imp_right ?_⟩
    rintro ⟨unreliable, e, failed, of_medium⟩
    obtain ⟨f, answer, rfl⟩ := fails e failed
    exact ⟨unreliable, .execution f, answer, of_medium⟩

section

variable (opened : u.openConnection? = some n) (conn : w.store.connection? n = some c)
  (transaction : c.inTransaction = true)

include opened conn transaction

theorem goesOn_call (call : Call) : GoesOn n c u w (call.run u w) := by
  have remembers := call.remembers u w
  cases call.settled u.filterMode with
  | refused refuses => exact ⟨remembers, .inl (refuses u w rfl).store⟩
  | @asked ask asks repeats =>
    obtain ⟨ok, error⟩ := (asks u w rfl).2 n opened
    refine .of_asked remembers ((repeats c transaction).staysInside conn) ?_ fun e failed => ?_
    · cases reply : (ask w.store n).1 with
      | ok b => exact (ok b reply).store
      | error e =>
        obtain ⟨_, _, gives⟩ := error e reply
        exact gives.store
    · obtain ⟨f, cause, gives⟩ := error e failed
      exact ⟨f, gives.answer, cause⟩

theorem goesOn_execute (operation : Operation) (entity : String) {statement : Statement}
    {command : Command} (read : Command.read (scan statement.sql) = .ok command)
    (keeps : command.KeepsTransaction) :
    GoesOn n c u w (u.execute w operation entity statement) := by
  refine .of_asked (remembers_execute operation entity statement)
    (Store.staysInside_execute read keeps conn transaction statement.parameters) ?_
    fun e failed => ?_
  · rw [execute, opened]
    exact observe_store ..
  · rw [execute, opened]
    dsimp only
    rw [failed]
    exact ⟨_, rfl, rfl⟩

theorem goesOn_query (operation : Operation) (entity : String)
    (ofRow : ResultRow → Except StoreError β) {statement : Statement} {command : Command}
    (read : Command.read (scan statement.sql) = .ok command) (keeps : command.KeepsTransaction) :
    GoesOn n c u w (u.query w operation entity ofRow statement) := by
  refine .of_asked (remembers_query operation entity ofRow statement)
    (Store.staysInside_query read keeps conn transaction statement.parameters) ?_ fun e failed => ?_
  · rw [query, opened]
    exact observe_store ..
  · rw [query, opened]
    dsimp only
    rw [failed]
    exact ⟨_, rfl, rfl⟩

/-- Any request that leaves the unit open lets it go on. -/
theorem goesOn_of_ongoing {request : Request} (reads : request.ReadsAs Command.KeepsTransaction)
    (still : (request.run u w).unit.state = .ongoing) : GoesOn n c u w (request.run u w) := by
  have remembers := remembers_of_ongoing request still
  cases request with
  | call call => exact goesOn_call opened conn transaction call
  | execute operation entity statement =>
    obtain ⟨command, read, keeps⟩ := reads
    exact goesOn_execute opened conn transaction operation entity read keeps
  | query operation entity ofRow statement =>
    obtain ⟨command, read, keeps⟩ := reads
    exact goesOn_query opened conn transaction operation entity ofRow read keeps
  | commit =>
    have same := commit_ongoing (u := u) (w := w) still
    exact ⟨remembers, .inl (congrArg (·.world.store) same)⟩
  | rollback =>
    have same := rollback_ongoing (u := u) (w := w) still
    exact ⟨remembers, .inl (congrArg (·.world.store) same)⟩
  | dispose =>
    have same := dispose_ongoing (u := u) (w := w) still
    exact ⟨remembers, .inl (congrArg (·.2.store) same)⟩

end

/-- Three such entries fit in a page, but not four. -/
def lengthy (id : Int64) : Entry :=
  ⟨id, some (String.ofList (List.replicate 300 '𝄞')), .newYear2024⟩

end UnitOfWork

end RecordStore
