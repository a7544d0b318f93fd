import RecordStore.Record
import RecordStore.Statement
import RecordStore.Options

/-!
States and errors of a unit of work. An error keeps its cause; its sources are the texts
from the cause inwards.
-/
namespace RecordStore

inductive UnitState
  | ongoing
  | committed
  | rolledBack
  | disposed
deriving DecidableEq

def UnitState.all : List UnitState := [.ongoing, .committed, .rolledBack, .disposed]

def UnitState.name : UnitState → String
  | .ongoing => "open"
  | .committed => "committed"
  | .rolledBack => "rolled_back"
  | .disposed => "disposed"

inductive Operation
  | getAll
  | get
  | create
  | update
  | delete
deriving DecidableEq

namespace Operation

def all : List Operation := [.getAll, .get, .create, .update, .delete]

def name : Operation → String
  | .getAll => "get_all"
  | .get => "get"
  | .create => "create"
  | .update => "update"
  | .delete => "delete"

def phrase : Operation → String × String
  | .getAll => ("list", "records")
  | .get => ("get", "record")
  | .create => ("create", "record")
  | .update => ("update", "records")
  | .delete => ("delete", "records")

end Operation

inductive DatabaseError
  | store (e : StoreError)
  | setting (name : String) (expected actual : Int64)
deriving DecidableEq

namespace DatabaseError

def message : DatabaseError → String
  | .store e => e.message
  | .setting name expected actual =>
    s!"pragma `{name}` reads back {actual.toInt} after being set to {expected.toInt}"

def sources : DatabaseError → List String
  | .store e => e.chain
  | .setting _ _ _ => []

end DatabaseError

structure FailedStatement where
  operation : Operation
  entity : String
  error : StoreError
deriving DecidableEq

def FailedStatement.message (f : FailedStatement) : String :=
  s!"{f.operation.name} on `{f.entity}` failed: {f.error.message}"

inductive RepositoryError
  | configuration (e : SchemaError)
  | unsupportedPredicate (e : PredicateError)
  | statement (e : ArityError)
  | execution (f : FailedStatement)
  | notOpen (state : UnitState) (attempted : String)
  | commitAborted (f : FailedStatement)
  | commit (e : DatabaseError)
  | database (e : DatabaseError)
deriving DecidableEq

namespace RepositoryError

def message : RepositoryError → String
  | .configuration e => s!"configuration error: {e.message}"
  | .unsupportedPredicate e => e.message
  | .statement e => e.message
  | .execution f =>
    let (verb, noun) := f.operation.phrase
    s!"could not {verb} `{f.entity}` {noun}: {f.error.message}"
  | .notOpen state attempted => s!"unit of work is {state.name}; cannot run `{attempted}`"
  | .commitAborted f => s!"commit aborted and rolled back after failed statement: {f.message}"
  | .commit e => s!"commit failed and was rolled back: {e.message}"
  | .database e => e.message

def sources : RepositoryError → List String
  | .configuration e => [e.message]
  | .unsupportedPredicate e => [e.message]
  | .statement e => [e.message]
  | .execution f | .commitAborted f => f.error.chain
  | .notOpen _ _ => []
  | .commit e | .database e => e.message :: e.sources

end RepositoryError

end RecordStore
