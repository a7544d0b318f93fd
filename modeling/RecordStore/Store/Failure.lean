import RecordStore.Value

/-!
What can go wrong in the store and at its boundary. An engine failure is a cause with a
text and a code; the other errors concern parameters, columns and rows.
-/
namespace RecordStore

inductive FailureCode
  | general
  | busy
  | cannotOpen
  | full
  | inputOutput
  | mismatch
  | misuse
  | foreignKey
  | notNull
  | primaryKey
deriving DecidableEq

def FailureCode.text : FailureCode → String
  | .general => "Error code 1: SQL error or missing database"
  | .busy => "Error code 5: The database file is locked"
  | .inputOutput => "Error code 10: Some kind of disk I/O error occurred"
  | .full => "Error code 13: Insertion failed because database is full"
  | .cannotOpen => "Error code 14: Unable to open the database file"
  | .mismatch => "Error code 20: Data type mismatch"
  | .misuse => "Error code 21: Library used incorrectly"
  | .foreignKey => "Error code 787: Foreign key constraint failed"
  | .notNull => "Error code 1299: A NOT NULL constraint failed"
  | .primaryKey => "Error code 1555: A PRIMARY KEY constraint failed"

/-- Why a medium does not take what is written. -/
inductive MediumError
  | full
  | inputOutput
deriving DecidableEq

inductive Failure
  | noSuchTable (table : String)
  | noSuchColumn (column : String)
  | noColumnNamed (table column : String)
  | nearToken (token : String)
  | unrecognizedToken (token : String)
  | incompleteInput
  | clockWord (word : String)
  | privateLimit
  | conditionTooHigh
  | tooManyParameters
  | nestedBegin
  | commitOutside
  | rollbackOutside
  | locked
  | cannotOpen (path : String)
  | keyMismatch
  | nothingToRun
  | danglingReference
  | missingValue (table column : String)
  | duplicateKey (table column : String)
  | medium (e : MediumError)
deriving DecidableEq

namespace Failure

def message : Failure → String
  | .noSuchTable table => s!"no such table: {table}"
  | .noSuchColumn column => s!"no such column: {column}"
  | .noColumnNamed table column => s!"table {table} has no column named {column}"
  | .nearToken token => s!"near \"{token}\": syntax error"
  | .unrecognizedToken token => s!"unrecognized token: \"{token}\""
  | .incompleteInput => "incomplete input"
  | .clockWord word => s!"{word} is read from the clock"
  | .privateLimit => "the pages of a private database are not limited"
  | .conditionTooHigh => "Expression tree is too large (maximum depth 1000)"
  | .tooManyParameters => "too many SQL variables"
  | .nestedBegin => "cannot start a transaction within a transaction"
  | .commitOutside => "cannot commit - no transaction is active"
  | .rollbackOutside => "cannot rollback - no transaction is active"
  | .locked => "database is locked"
  | .cannotOpen path => s!"unable to open database file: {path}"
  | .keyMismatch => "datatype mismatch"
  | .nothingToRun => "not an error"
  | .danglingReference => "FOREIGN KEY constraint failed"
  | .missingValue table column => s!"NOT NULL constraint failed: {table}.{column}"
  | .duplicateKey table column => s!"UNIQUE constraint failed: {table}.{column}"
  | .medium .full => "database or disk is full"
  | .medium .inputOutput => "disk I/O error"

def code : Failure → FailureCode
  | .locked => .busy
  | .cannotOpen _ => .cannotOpen
  | .keyMismatch => .mismatch
  | .nothingToRun => .misuse
  | .danglingReference => .foreignKey
  | .missingValue _ _ => .notNull
  | .duplicateKey _ _ => .primaryKey
  | .medium .full => .full
  | .medium .inputOutput => .inputOutput
  | _ => .general

end Failure

inductive StoreError
  | failed (cause : Failure)
  | located (cause : Failure) (sql : String) (offset : Nat)
  | noRows
  | notReadOnly
  | returnedRows
  | columnIndex (index : Nat)
  | columnName (name : String)
  | columnType (index : Nat) (name : String) (found : StorageClass)
  | conversion (index : Nat) (found : StorageClass) (why : String)
  | parameterName (name : String)
  | parameterCount (given needed : Nat)
  | changedRows (count : Nat)
  | zeroByte (position : Nat)
deriving DecidableEq

namespace StoreError

def message : StoreError → String
  | .failed cause => cause.message
  | .located cause sql offset => s!"{cause.message} in {sql} at offset {offset}"
  | .noRows => "Query returned no rows"
  | .notReadOnly => "Query is not read-only"
  | .returnedRows => "Execute returned results - did you mean to call query?"
  | .columnIndex index => s!"Invalid column index: {index}"
  | .columnName name => s!"Invalid column name: {name}"
  | .columnType index name found =>
    s!"Invalid column type {found.name} at index: {index}, name: {name}"
  | .conversion index found why =>
    s!"Conversion error from type {found.name} at index: {index}, {why}"
  | .parameterName name => s!"Invalid parameter name: {name}"
  | .parameterCount given needed =>
    s!"Wrong number of parameters passed to query. Got {given}, needed {needed}"
  | .changedRows count => s!"Query changed {count} rows"
  | .zeroByte position => s!"nul byte found in provided data at position: {position}"

def sources : StoreError → List String
  | .failed cause => [cause.code.text]
  | .located cause _ _ => [cause.code.text]
  | .conversion _ _ why => [why, why]
  | .zeroByte position => [message (.zeroByte position)]
  | _ => []

def chain (e : StoreError) : List String := e.message :: e.sources

end StoreError

end RecordStore
