import RecordStore.Event

/-!
Units of work: one transaction on one connection. A failed statement is remembered and
makes the commit fail; whatever ends a unit without a commit drops its changes.
-/
namespace RecordStore

/-- The store with what the process remembers: record types already resolved and the
events logged so far. -/
structure World where
  store : Store
  resolved : List String
  events : List Event

namespace World

def ofStore (s : Store) : World := ⟨s, [], []⟩

def log (w : World) (e : Event) : World := { w with events := w.events ++ [e] }

end World

structure UnitOfWork where
  connection : Option Nat
  state : UnitState
  /-- The first failed statement that no commit has reported yet. -/
  failure : Option FailedStatement
  filterMode : FilterMode

structure UnitStep (α : Type) where
  answer : Except RepositoryError α
  unit : UnitOfWork
  world : World

namespace UnitOfWork

/-- Begins a unit on a connection. A connection that cannot begin is closed. -/
def begin (w : World) (connection : Nat) (o : StoreOptions) :
    Except RepositoryError UnitOfWork × World :=
  match w.store.runCommand connection (.begin o.transactionMode) with
  | (.error e, s) =>
    (.error (.database (.store e)),
      { w with store := s.close connection }.log (.unitNotBegun o.transactionMode e))
  | (.ok (), s) =>
    (.ok ⟨some connection, .ongoing, none, o.filterMode⟩,
      { w with store := s }.log (.unitBegun o.transactionMode o.filterMode))

def openConnection? (u : UnitOfWork) : Option Nat :=
  if u.state = .ongoing then u.connection else none

def refuse {α : Type} (u : UnitOfWork) (w : World) (attempted : String) : UnitStep α :=
  ⟨.error (.notOpen u.state attempted), u, w⟩

def observe {α : Type} (u : UnitOfWork) (w : World) (operation : Operation) (entity : String)
    (result : Except StoreError α) : UnitStep α :=
  match result with
  | .ok value => ⟨.ok value, u, w.log (.statementRun operation entity)⟩
  | .error e =>
    let failed : FailedStatement := ⟨operation, entity, e⟩
    ⟨.error (.execution failed), { u with failure := u.failure.or (some failed) },
      w.log (.statementFailed failed)⟩

def execute (u : UnitOfWork) (w : World) (operation : Operation) (entity : String)
    (statement : Statement) : UnitStep Nat :=
  match u.openConnection? with
  | none => u.refuse w operation.name
  | some connection =>
    let (result, s) := w.store.execute connection statement.sql statement.parameters
    u.observe { w with store := s } operation entity result

/-- Runs a statement and reads its rows; the first row that cannot be read is its error. -/
def query {α : Type} (u : UnitOfWork) (w : World) (operation : Operation) (entity : String)
    (ofRow : ResultRow → Except StoreError α) (statement : Statement) : UnitStep (List α) :=
  match u.openConnection? with
  | none => u.refuse w operation.name
  | some connection =>
    let (rows, s) := w.store.query connection statement.sql statement.parameters
    u.observe { w with store := s } operation entity (rows.bind (·.mapM ofRow))

def rollbackQuietly (w : World) (connection : Nat) : World :=
  if w.store.inTransaction connection then
    match w.store.runCommand connection .rollback with
    | (.ok (), s) => { w with store := s }
    | (.error e, s) => { w with store := s }.log (.rollbackFailed e)
  else w

/-- Commits, unless a statement has failed; then the unit is rolled back and the failure
is handed over. -/
def commit (u : UnitOfWork) (w : World) : UnitStep Unit :=
  match u.openConnection?, u.failure with
  | none, _ => u.refuse w "commit"
  | some connection, some failed =>
    let w := rollbackQuietly w connection
    ⟨.error (.commitAborted failed), { u with state := .rolledBack, failure := none },
      w.log (.commitAborted failed.operation failed.entity)⟩
  | some connection, none =>
    match w.store.runCommand connection .commit with
    | (.ok (), s) =>
      ⟨.ok (), { u with state := .committed }, { w with store := s }.log .committed⟩
    | (.error e, s) =>
      let w := rollbackQuietly { w with store := s } connection
      ⟨.error (.commit (.store e)), { u with state := .rolledBack }, w.log (.commitFailed e)⟩

/-- Rolls back; the unit ends even if there is no transaction to roll back. -/
def rollback (u : UnitOfWork) (w : World) : UnitStep Unit :=
  match u.openConnection? with
  | none => u.refuse w "rollback"
  | some connection =>
    let u := { u with state := .rolledBack }
    match w.store.runCommand connection .rollback with
    | (.ok (), s) => ⟨.ok (), u, { w with store := s }.log .rolledBack⟩
    | (.error e, s) =>
      ⟨.error (.database (.store e)), u, { w with store := s }.log (.rollbackFailed e)⟩

/-- Closes the connection, rolling back what is still open. A second time does nothing. A
connection fails to close only while one of its statements is running; none of them outlives
the call that ran it, so closing does not fail. -/
def dispose (u : UnitOfWork) (w : World) : UnitOfWork × World :=
  match u.connection with
  | none => (u, w)
  | some connection =>
    let w := if u.state = .ongoing then rollbackQuietly w connection else w
    let w := { w with store := w.store.close connection }
    ({ u with connection := none, state := .disposed }, w.log (.disposed u.state))

end UnitOfWork

end RecordStore
