import RecordStore.Document
import RecordStore.Record
import RecordStore.Options

/-!
Options and entries as documents. A missing option has its default; an entry needs its
identifier and its date, which is written as a year with a day of the year.
-/
namespace RecordStore

open Sql (TransactionMode)

namespace FilterMode

def all : List FilterMode := [.bound, .inline]

def key : FilterMode → String
  | .bound => "bound"
  | .inline => "inline"

end FilterMode

namespace StoreOptions

def fieldNames : List String :=
  ["busy_timeout_ms", "foreign_keys", "transaction_mode", "filter_mode"]

def putField (o : StoreOptions) (name : String) (d : Document) :
    Except DecodeError StoreOptions :=
  match name with
  | "busy_timeout_ms" => do return { o with busyTimeoutMs := ← d.decodeWord "u64" }
  | "foreign_keys" => do return { o with foreignKeys := ← d.decodeBoolean }
  | "transaction_mode" => do
    return { o with transactionMode := ← d.decodeVariant TransactionMode.name TransactionMode.all }
  | "filter_mode" => do
    return { o with filterMode := ← d.decodeVariant FilterMode.key FilterMode.all }
  | _ => .ok o

def decode (d : Document) : Except DecodeError StoreOptions := do
  let (o, length) ← d.decodeFields "struct DbOptions" fieldNames putField .default
  Document.checkLength fieldNames.length length
  return o

def encode (o : StoreOptions) : Document :=
  .ofFields [("busy_timeout_ms", .natural o.busyTimeoutMs),
    ("foreign_keys", .boolean o.foreignKeys),
    ("transaction_mode", .text o.transactionMode.name),
    ("filter_mode", .text o.filterMode.key)]

end StoreOptions

namespace LogOptions

def fieldNames : List String := ["level", "log_dir", "max_file_bytes", "max_files"]

def putField (o : LogOptions) (name : String) (d : Document) : Except DecodeError LogOptions :=
  match name with
  | "level" => do return { o with level := ← d.decodeText "a string" }
  | "log_dir" => do return { o with logDir := ← d.decodeOption (·.decodeText "path string") }
  | "max_file_bytes" => do return { o with maxFileBytes := ← d.decodeWord "u64" }
  | "max_files" => do return { o with maxFiles := ← d.decodeWord "usize" }
  | _ => .ok o

def decode (d : Document) (build : Build := .debug) : Except DecodeError LogOptions := do
  let (o, length) ← d.decodeFields "struct LogConfig" fieldNames putField (.default build)
  Document.checkLength fieldNames.length length
  return o

def encode (o : LogOptions) : Document :=
  .ofFields [("level", .text o.level),
    ("log_dir", match o.logDir with | none => .null | some dir => .text dir),
    ("max_file_bytes", .natural o.maxFileBytes), ("max_files", .natural o.maxFiles)]

def decodeRaw (d : Document) (build : Build := .debug) :
    Except DecodeError (LogOptions RawPath) :=
  (decode d build).map onRawPaths

/-- A document has no place for a path that is not text. -/
def encodeRaw (o : LogOptions RawPath) : Except EncodeError Document :=
  match o.onText? with
  | none => .error .pathNotText
  | some o => .ok o.encode

end LogOptions

namespace Date

def decode : Document → Except DecodeError Date
  | .list items => do
    let year :: rest := items | throw (.missingItem "year")
    let year ← year.decodeInt "i32" (-2147483648) 2147483647
    let day :: _ := rest | throw (.missingItem "day of year")
    let day ← day.decodeInt "u16" 0 65535
    if year < -9999 ∨ 9999 < year then throw (.outOfRange "year")
    let some date := ofDayOfYear? year day.toNat | throw (.outOfRange "ordinal")
    Document.checkLength 2 (some items.length)
    return date
  | d => d.wrongType "a `Date`"

def encode (d : Date) : Document := .list [.ofInt d.year, .natural (UInt64.ofNat d.dayOfYear)]

end Date

namespace Entry

def fieldNames : List String := ["id", "description", "date"]

structure Draft where
  id : Option Int64
  description : Option String
  date : Option Date

def Draft.putField (e : Draft) (name : String) (d : Document) : Except DecodeError Draft :=
  match name with
  | "id" => do return { e with id := some (← d.decodeInt64) }
  | "description" => do
    return { e with description := ← d.decodeOption (·.decodeText "a string") }
  | "date" => do return { e with date := some (← Date.decode d) }
  | _ => .ok e

def decode (d : Document) : Except DecodeError Entry := do
  let blank : Draft := ⟨none, none, none⟩
  let (draft, length) ← d.decodeFields "struct Entry" fieldNames Draft.putField blank
  if let some n := length then
    if n < fieldNames.length then throw (.wrongLength n "struct Entry with 3 elements")
  let some id := draft.id | throw (.missingField "id")
  let some date := draft.date | throw (.missingField "date")
  Document.checkLength fieldNames.length length
  return ⟨id, draft.description, date⟩

def encode (e : Entry) : Document :=
  .ofFields [("id", .ofInt e.id.toInt),
    ("description", match e.description with | none => .null | some s => .text s),
    ("date", e.date.encode)]

end Entry

end RecordStore
