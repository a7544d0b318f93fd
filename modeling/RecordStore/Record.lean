import RecordStore.Store.Connection

/-!
Record types: a declaration, the values that a model stores, and the way back from a row.
-/
namespace RecordStore

structure RecordType (α : Type) where
  declaration : Declaration
  values : α → List Value
  ofRow : ResultRow → Except StoreError α

def RecordType.plain (declaration : Declaration) : RecordType (List Value) where
  declaration := declaration
  values := id
  ofRow row := declaration.columns.mapM fun c => (row.value c.name).map Prod.snd

structure Entry where
  id : Int64
  description : Option String
  date : Date
deriving DecidableEq

namespace Entry

def declaration : Declaration where
  record := "genrepo_core::model::entry::EntryRecord"
  table := some "ENTRIES"
  columns := [⟨"ID", .integer⟩, ⟨"DESCRIPTION", .text⟩, ⟨"DATE", .date⟩]

def values (e : Entry) : List Value :=
  [.integer e.id, match e.description with | none => .null | some s => .text s,
    .text e.date.text]

def readId (row : ResultRow) : Except StoreError Int64 := do
  let (i, v) ← row.value "ID"
  match v with
  | .integer id => return id
  | v => throw (.columnType i "ID" v.storageClass)

def readDescription (row : ResultRow) : Except StoreError (Option String) := do
  let (i, v) ← row.value "DESCRIPTION"
  match v with
  | .null => return none
  | .text s => return some s
  | v => throw (.columnType i "DESCRIPTION" v.storageClass)

def readDate (row : ResultRow) : Except StoreError Date := do
  let (i, v) ← row.value "DATE"
  match v with
  | .text s =>
    match Date.read s with
    | .ok d => return d
    | .error why => throw (.conversion i .text why.message)
  | v => throw (.columnType i "DATE" v.storageClass)

def ofRow (row : ResultRow) : Except StoreError Entry := do
  let id ← readId row
  let description ← readDescription row
  let date ← readDate row
  return ⟨id, description, date⟩

end Entry

def entryRecord : RecordType Entry := ⟨Entry.declaration, Entry.values, Entry.ofRow⟩

end RecordStore
