import RecordStore.Number.Real

/-!
Stored values and their order, and the four comparisons that a filter can ask for.
-/
namespace RecordStore

inductive Value
  | null
  | integer (i : Int64)
  | real (x : Real64)
  | text (s : String)
  | blob (bytes : List UInt8)
deriving DecidableEq

inductive StorageClass
  | null
  | integer
  | real
  | text
  | blob
deriving DecidableEq

def StorageClass.name : StorageClass → String
  | .null => "Null"
  | .integer => "Integer"
  | .real => "Real"
  | .text => "Text"
  | .blob => "Blob"

def Value.storageClass : Value → StorageClass
  | .null => .null
  | .integer _ => .integer
  | .real _ => .real
  | .text _ => .text
  | .blob _ => .blob

inductive CompareOp
  | eq
  | ne
  | lt
  | gt
deriving DecidableEq

namespace CompareOp

def all : List CompareOp := [.eq, .ne, .lt, .gt]

def name : CompareOp → String
  | .eq => "eq"
  | .ne => "ne"
  | .lt => "lt"
  | .gt => "gt"

def symbol : CompareOp → String
  | .eq => "="
  | .ne => "<>"
  | .lt => "<"
  | .gt => ">"

def accepts : CompareOp → Ordering → Bool
  | .eq, o => o == .eq
  | .ne, o => o != .eq
  | .lt, o => o == .lt
  | .gt, o => o == .gt

def isOrdering : CompareOp → Bool
  | .lt | .gt => true
  | .eq | .ne => false

end CompareOp

/-- Text in the order of its code points, which is the order of its UTF-8 bytes. -/
def compareText (s t : String) : Ordering := compareOfLessAndEq s t

def compareBytes : List UInt8 → List UInt8 → Ordering
  | [], [] => .eq
  | [], _ :: _ => .lt
  | _ :: _, [] => .gt
  | a :: as, b :: bs => (compare a b).then (compareBytes as bs)

end RecordStore
