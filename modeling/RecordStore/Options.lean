import RecordStore.Path
import RecordStore.Predicate.Filter
import RecordStore.Sql.Command

/-!
Options of a store connection and of logging, with their defaults.
-/
namespace RecordStore

open Sql (TransactionMode)

namespace Sql.TransactionMode

def all : List TransactionMode := [.deferred, .immediate, .exclusive]

def name : TransactionMode → String
  | .deferred => "deferred"
  | .immediate => "immediate"
  | .exclusive => "exclusive"

def beginSql : TransactionMode → String
  | .deferred => "BEGIN DEFERRED;"
  | .immediate => "BEGIN IMMEDIATE;"
  | .exclusive => "BEGIN EXCLUSIVE;"

end Sql.TransactionMode

structure StoreOptions where
  busyTimeoutMs : UInt64
  foreignKeys : Bool
  transactionMode : TransactionMode
  filterMode : FilterMode
deriving DecidableEq

def StoreOptions.default : StoreOptions := ⟨5000, true, .deferred, .bound⟩

/-- How a program was built. -/
inductive Build
  | debug
  | release

def defaultLogLevel (build : Build := .debug) : String :=
  match build with
  | .debug => "debug"
  | .release => "info"

structure LogOptions (Directory : Type := String) where
  level : String
  logDir : Option Directory
  maxFileBytes : UInt64
  maxFiles : UInt64
deriving DecidableEq

namespace LogOptions

def default (build : Build := .debug) : LogOptions := ⟨defaultLogLevel build, none, 10485760, 5⟩

def onRawPaths (o : LogOptions) : LogOptions RawPath :=
  ⟨o.level, o.logDir.map RawPath.ofText, o.maxFileBytes, o.maxFiles⟩

/-- The same options with their directory as text, if it is text. -/
def onText? (o : LogOptions RawPath) : Option LogOptions := do
  let dir ← o.logDir.mapM RawPath.text?
  return ⟨o.level, dir, o.maxFileBytes, o.maxFiles⟩

end LogOptions

def version : String := "0.1.0"

end RecordStore
