import RecordStore.Predicate.Filter

/-!
SQL statements of a descriptor. Column values come first among the parameters, under the
names of their columns; the parameters of the filter follow.
-/
namespace RecordStore

structure Statement where
  sql : String
  parameters : List Value
deriving DecidableEq

structure ArityError where
  table : String
  expected : Nat
  actual : Nat
deriving DecidableEq

def ArityError.message (e : ArityError) : String :=
  s!"`{e.table}` declares {e.expected} columns but the record supplied {e.actual} values"

namespace Statement

def filtered (sql : String) (parameters : List Value) (f : Filter) : Statement :=
  if f.isEmpty then ⟨sql, parameters⟩
  else ⟨sql ++ " WHERE " ++ f.text, parameters ++ f.parameters⟩

def commaSeparated (parts : List String) : String := ", ".intercalate parts

def checkArity (d : Descriptor) (values : List Value) : Except ArityError Unit :=
  if values.length = d.columns.length then .ok ()
  else .error ⟨d.table, d.columns.length, values.length⟩

def select (d : Descriptor) (f : Filter) : Statement :=
  filtered ("SELECT * FROM " ++ d.table) [] f

def insert (d : Descriptor) (values : List Value) : Except ArityError Statement := do
  checkArity d values
  let columns := commaSeparated d.columnNames
  let placeholders := commaSeparated (d.columnNames.map ("@" ++ ·))
  return ⟨s!"INSERT INTO {d.table} ({columns}) VALUES ({placeholders})", values⟩

def update (d : Descriptor) (values : List Value) (f : Filter) :
    Except ArityError Statement := do
  checkArity d values
  let assignments := commaSeparated (d.columnNames.map fun name => s!"{name} = @{name}")
  return filtered s!"UPDATE {d.table} SET {assignments}" values f

def delete (d : Descriptor) (f : Filter) : Statement :=
  filtered ("DELETE FROM " ++ d.table) [] f

end Statement

end RecordStore
