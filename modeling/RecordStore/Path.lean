/-!
Paths as their names between slashes.
-/
namespace RecordStore

def maxNameBytes : Nat := 255

namespace Path

def isAbsolute (path : String) : Bool := path.toList.head? == some '/'

def segmentsFrom : List Char → List Char → List String
  | current, [] => if current.isEmpty then [] else [String.ofList current.reverse]
  | current, '/' :: rest =>
    if current.isEmpty then segmentsFrom [] rest
    else String.ofList current.reverse :: segmentsFrom [] rest
  | current, c :: rest => segmentsFrom (c :: current) rest

def segments (path : String) : List String := segmentsFrom [] path.toList

def components (path : String) : List String := (segments path).filter (· != ".")

def same (a b : String) : Bool := components a == components b

def parent (segments : List String) : List String :=
  (((segments.reverse.dropWhile (· == ".")).drop 1).dropWhile (· == ".")).reverse

end Path

/-- A path as the system has it, bytes that need not be text. -/
structure RawPath where
  bytes : ByteArray

namespace RawPath

def ofText (path : String) : RawPath := ⟨path.toUTF8⟩

def text? (p : RawPath) : Option String := String.fromUTF8? p.bytes

end RawPath

end RecordStore
