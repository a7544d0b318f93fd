import RecordStore.Number.Decimal
import RecordStore.Text.Quoted

/-!
Structured documents: null, booleans, numbers, text, lists and named fields. The fields of
a map are kept in ascending order of their names.
-/
namespace RecordStore

inductive Document
  | null
  | boolean (b : Bool)
  | natural (n : UInt64)
  | negative (i : Int64)
  | real (x : Real64)
  | text (s : String)
  | list (items : List Document)
  | map (fields : List (String × Document))

namespace Document

def putField (name : String) (d : Document) :
    List (String × Document) → List (String × Document)
  | [] => [(name, d)]
  | (other, e) :: rest =>
    if name < other then (name, d) :: (other, e) :: rest
    else if name = other then (name, d) :: rest
    else (other, e) :: putField name d rest

def ofFields (fields : List (String × Document)) : Document :=
  .map (fields.foldl (fun sorted (name, d) => putField name d sorted) [])

def ofInt (i : Int) : Document :=
  if i < 0 then .negative (Int64.ofInt i) else .natural (UInt64.ofNat i.natAbs)

def toInt? : Document → Option Int
  | .natural n => some n.toNat
  | .negative i => some i.toInt
  | _ => none

/-- Numbers in messages have an exponent from 10^16 up and below 10^-5: `1e+16`. -/
def realFormat : NumberFormat := ⟨-5, 15, false, signedPower 1⟩

def realText (x : Real64) : String := (x.numeral .even).format realFormat

def description : Document → String
  | .null => "null"
  | .boolean b => s!"boolean `{b}`"
  | .natural n => s!"integer `{n.toNat}`"
  | .negative i => s!"integer `{i.toInt}`"
  | .real x => s!"floating point `{realText x}`"
  | .text s => s!"string {quoted s}"
  | .list _ => "sequence"
  | .map _ => "map"

end Document

inductive DecodeError
  | wrongType (found expected : String)
  | wrongValue (found expected : String)
  | unknownVariant (name : String) (known : List String)
  | missingField (name : String)
  | wrongLength (length : Nat) (expected : String)
  | missingItem (name : String)
  | outOfRange (name : String)
deriving DecidableEq

namespace DecodeError

def alternatives (known : List String) : String :=
  match known.map fun name => s!"`{name}`" with
  | [a, b] => s!"{a} or {b}"
  | names => "one of " ++ ", ".intercalate names

def message : DecodeError → String
  | .wrongType found expected => s!"invalid type: {found}, expected {expected}"
  | .wrongValue found expected => s!"invalid value: {found}, expected {expected}"
  | .unknownVariant name known => s!"unknown variant `{name}`, expected {alternatives known}"
  | .missingField name => s!"missing field `{name}`"
  | .wrongLength length expected => s!"invalid length {length}, expected {expected}"
  | .missingItem name => s!"expected {name}"
  | .outOfRange name => s!"invalid {name}, expected an in-range value"

end DecodeError

inductive EncodeError
  | pathNotText

def EncodeError.message : EncodeError → String
  | .pathNotText => "path contains invalid UTF-8 characters"

namespace Document

def wrongType {α : Type} (d : Document) (expected : String) : Except DecodeError α :=
  .error (.wrongType d.description expected)

def decodeInt (expected : String) (least greatest : Int) (d : Document) :
    Except DecodeError Int :=
  match d.toInt? with
  | none => d.wrongType expected
  | some i =>
    if least ≤ i ∧ i ≤ greatest then .ok i else .error (.wrongValue d.description expected)

def decodeWord (expected : String) (d : Document) : Except DecodeError UInt64 :=
  (decodeInt expected 0 18446744073709551615 d).map fun i => UInt64.ofNat i.toNat

def decodeInt64 (d : Document) : Except DecodeError Int64 :=
  (decodeInt "i64" (-9223372036854775808) 9223372036854775807 d).map Int64.ofInt

def decodeBoolean : Document → Except DecodeError Bool
  | .boolean b => .ok b
  | d => d.wrongType "a boolean"

def decodeText (expected : String) : Document → Except DecodeError String
  | .text s => .ok s
  | d => d.wrongType expected

def decodeOption {α : Type} (decode : Document → Except DecodeError α) :
    Document → Except DecodeError (Option α)
  | .null => .ok none
  | d => (decode d).map some

def decodeName {α : Type} (name : α → String) (all : List α) (s : String) :
    Except DecodeError α :=
  match all.find? fun a => name a == s with
  | some a => .ok a
  | none => .error (.unknownVariant s (all.map name))

def decodeVariant {α : Type} (name : α → String) (all : List α) :
    Document → Except DecodeError α
  | .text s => decodeName name all s
  | .map [(s, content)] => do
    let a ← decodeName name all s
    match content with
    | .null => return a
    | d => d.wrongType "unit"
  | .map fields => .error (.wrongValue (Document.map fields).description "map with a single key")
  | d => d.wrongType "string or map"

/-- A record from its named fields in the order of the map, or from a list of fields in
the order of `names`. A list may be shorter than `names` but not longer. -/
def decodeFields {α : Type} (expected : String) (names : List String)
    (put : α → String → Document → Except DecodeError α) (start : α) :
    Document → Except DecodeError (α × Option Nat)
  | .map fields => do
    let a ← fields.foldlM (fun a (name, d) => put a name d) start
    return (a, none)
  | .list items => do
    let a ← (names.zip items).foldlM (fun a (name, d) => put a name d) start
    return (a, some items.length)
  | d => d.wrongType expected

def checkLength (count : Nat) (length : Option Nat) : Except DecodeError Unit :=
  match length with
  | none => .ok ()
  | some n => if n ≤ count then .ok () else .error (.wrongLength n "fewer elements in array")

end Document

end RecordStore
