import RecordStore.Literal

/-!
Declared record types and their validated descriptors. A descriptor exists only for a
declaration whose table and columns are plain identifiers, pairwise different up to case.
-/
namespace RecordStore

structure Column where
  name : String
  kind : ColumnKind
deriving DecidableEq

structure Declaration where
  record : String
  table : Option String
  columns : List Column

structure Descriptor where
  record : String
  table : String
  columns : List Column
deriving DecidableEq

inductive SchemaError
  | missingTable (record : String)
  | invalidIdentifier (record identifier : String)
  | noColumns (record : String)
  | duplicateColumn (record column : String)
deriving DecidableEq

namespace Schema

def foldCase (s : String) : String := String.ofList (s.toList.map Char.toLower)

def sameName (a b : String) : Bool := foldCase a == foldCase b

def isLetter (c : Char) : Bool := c.isAlpha || c == '_'

/-- One ASCII letter or underscore, then letters, digits and underscores to the end. -/
def isIdentifier (s : String) : Bool :=
  match s.toList with
  | [] => false
  | c :: rest => isLetter c && rest.all fun d => isLetter d || d.isDigit

def column? (columns : List Column) (name : String) : Option Column :=
  columns.find? fun c => sameName c.name name

def position? (columns : List Column) (name : String) : Option Nat :=
  columns.findIdx? fun c => sameName c.name name

def beforeSeparator : List Char → List Char
  | ':' :: ':' :: _ => []
  | c :: rest => c :: beforeSeparator rest
  | [] => []

/-- The last segment of a type path, leaving out type arguments. -/
def shortName (full : String) : String :=
  let path := full.toList.takeWhile (· != '<')
  String.ofList (beforeSeparator path.reverse).reverse

end Schema

open Schema

def SchemaError.message : SchemaError → String
  | .missingTable record => s!"could not get table name for `{record}`"
  | .invalidIdentifier record identifier =>
    s!"`{record}` declares `{identifier}`, which is not a plain SQL identifier"
  | .noColumns record => s!"`{record}` declares no columns"
  | .duplicateColumn record column => s!"`{record}` declares column `{column}` more than once"

namespace Declaration

def checkIdentifier (record identifier : String) : Except SchemaError Unit :=
  if isIdentifier identifier then .ok () else .error (.invalidIdentifier record identifier)

def checkColumns (record : String) : List String → List Column → Except SchemaError Unit
  | _, [] => .ok ()
  | seen, c :: rest => do
    checkIdentifier record c.name
    if seen.any (sameName c.name) then throw (.duplicateColumn record c.name)
    checkColumns record (c.name :: seen) rest

/-- The descriptor of a declaration, or the first rule that it breaks: the table is
looked at before the columns. -/
def describe (d : Declaration) : Except SchemaError Descriptor := do
  let some table := d.table | throw (.missingTable d.record)
  checkIdentifier d.record table
  if d.columns.isEmpty then throw (.noColumns d.record)
  checkColumns d.record [] d.columns
  return ⟨shortName d.record, table, d.columns⟩

end Declaration

namespace Descriptor

def column? (d : Descriptor) (name : String) : Option Column := Schema.column? d.columns name

def columnNames (d : Descriptor) : List String := d.columns.map Column.name

end Descriptor

end RecordStore
