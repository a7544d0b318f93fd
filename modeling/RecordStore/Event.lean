import RecordStore.UnitError

/-!
Log events and their lines. The number of a unit and elapsed times differ from run to run,
so a line shows `*` in their place.
-/
namespace RecordStore

inductive Level
  | error
  | warn
  | info
  | debug
  | trace
deriving DecidableEq

namespace Level

def label : Level → String
  | .error => "ERROR"
  | .warn => "WARN"
  | .info => "INFO"
  | .debug => "DEBUG"
  | .trace => "TRACE"

def verbosity : Level → Nat
  | .error => 0
  | .warn => 1
  | .info => 2
  | .debug => 3
  | .trace => 4

end Level

inductive Placement
  | memory
  | file
deriving DecidableEq

def Placement.name : Placement → String
  | .memory => "memory"
  | .file => "file"

inductive Event
  | schemaResolved (record table : String) (columns : Nat)
  | schemaFailed (record : String) (e : SchemaError)
  | openStarted (placement : Placement)
  | opened (placement : Placement) (foreignKeys : Bool)
  | openFailed (placement : Placement) (e : DatabaseError)
  | unitBegun (mode : Sql.TransactionMode) (filters : FilterMode)
  | unitNotBegun (mode : Sql.TransactionMode) (e : StoreError)
  | statementRun (operation : Operation) (entity : String)
  | statementFailed (f : FailedStatement)
  | operationDone (operation : Operation) (entity : String) (rows : Nat)
  | committed
  | commitAborted (operation : Operation) (entity : String)
  | commitFailed (e : StoreError)
  | rolledBack
  | rollbackFailed (e : StoreError)
  | disposed (previous : UnitState)
  | loggingStarted (level target : String)
  | smokePassed
deriving DecidableEq

namespace Event

def level : Event → Level
  | .schemaFailed _ _ | .openFailed _ _ | .unitNotBegun _ _ | .commitFailed _
  | .rollbackFailed _ => .error
  | .statementFailed _ | .commitAborted _ _ => .warn
  | .schemaResolved _ _ _ | .statementRun _ _ | .operationDone _ _ _ => .debug
  | _ => .info

def text : Event → String
  | .schemaResolved record table columns =>
    s!"event=schema_resolve module=schema status=ok record={record} table={table} columns={columns}"
  | .schemaFailed record e =>
    s!"event=schema_resolve module=schema status=error record={record} error={e.message}"
  | .openStarted placement => s!"event=db_open module=db status=start mode={placement.name}"
  | .opened placement foreignKeys =>
    s!"event=db_open module=db status=ok mode={placement.name} duration_ms=* "
      ++ s!"foreign_keys={foreignKeys}"
  | .openFailed placement e =>
    s!"event=db_open module=db status=error mode={placement.name} duration_ms=* "
      ++ s!"error={e.message}"
  | .unitBegun mode filters =>
    s!"event=uow_begin module=uow status=ok uow_id=* mode={mode.name} filter_mode={filters.name}"
  | .unitNotBegun mode e =>
    s!"event=uow_begin module=uow status=error uow_id=* mode={mode.name} error={e.message}"
  | .statementRun operation entity =>
    s!"event=statement module=uow status=ok uow_id=* operation={operation.name} entity={entity}"
  | .statementFailed f =>
    s!"event=statement module=uow status=error uow_id=* operation={f.operation.name} "
      ++ s!"entity={f.entity} error={f.error.message}"
  | .operationDone operation entity rows =>
    s!"event=repo_{operation.name} module=repo status=ok uow_id=* entity={entity} rows={rows} "
      ++ "duration_ms=*"
  | .committed => "event=uow_commit module=uow status=ok uow_id=* duration_ms=*"
  | .commitAborted operation entity =>
    s!"event=uow_commit module=uow status=aborted uow_id=* failed_operation={operation.name} "
      ++ s!"entity={entity}"
  | .commitFailed e => s!"event=uow_commit module=uow status=error uow_id=* error={e.message}"
  | .rolledBack => "event=uow_rollback module=uow status=ok uow_id=*"
  | .rollbackFailed e =>
    s!"event=uow_rollback module=uow status=error uow_id=* error={e.message}"
  | .disposed previous =>
    s!"event=uow_dispose module=uow status=ok uow_id=* previous_state={previous.name}"
  | .loggingStarted level target =>
    s!"event=logging_init module=logging status=ok level={level} target={target} "
      ++ s!"version={version}"
  | .smokePassed => "event=cli_smoke module=cli status=ok uow_id=*"

def line (e : Event) : String := e.level.label ++ " " ++ e.text

def isFirstResolution : Event → Bool
  | .schemaResolved _ _ _ => true
  | _ => false

end Event

end RecordStore
