import RecordStore.Path

/-!
A tree of directories and files under absolute paths, and the making of a directory with
everything above it.
-/
namespace RecordStore

inductive PathError
  | notFound
  | exists
  | notDirectory
  | nameTooLong
  | zeroCharacter
deriving DecidableEq

def PathError.message : PathError → String
  | .notFound => "No such file or directory (os error 2)"
  | .exists => "File exists (os error 17)"
  | .notDirectory => "Not a directory (os error 20)"
  | .nameTooLong => "File name too long (os error 36)"
  | .zeroCharacter => "file name contained an unexpected NUL byte"

structure FileTree where
  directories : List (List String)
  files : List (List String)

namespace FileTree

def isDirectory (t : FileTree) (place : List String) : Bool :=
  place.isEmpty || t.directories.contains place

def isFile (t : FileTree) (place : List String) : Bool := t.files.contains place

def enter (t : FileTree) (place : List String) (segment : String) :
    Except PathError (List String) :=
  if segment = "." then .ok place
  else if segment = ".." then .ok place.dropLast
  else if maxNameBytes < segment.utf8ByteSize then .error .nameTooLong
  else
    let next := place ++ [segment]
    if t.isDirectory next then .ok next
    else if t.isFile next then .error .notDirectory
    else .error .notFound

def walk (t : FileTree) (segments : List String) : Except PathError (List String) :=
  segments.foldlM t.enter []

def makeDirectory (t : FileTree) (segments : List String) : Except PathError FileTree := do
  let some last := segments.getLast? | throw .exists
  let place ← t.walk segments.dropLast
  if last = "." ∨ last = ".." then throw .exists
  if maxNameBytes < last.utf8ByteSize then throw .nameTooLong
  let next := place ++ [last]
  if t.isDirectory next || t.isFile next then throw .exists
  return { t with directories := t.directories ++ [next] }

def makeOrFind (t : FileTree) (segments : List String) : Except PathError Unit × FileTree :=
  match t.makeDirectory segments with
  | .ok t => (.ok (), t)
  | .error e =>
    match t.walk segments with
    | .ok _ => (.ok (), t)
    | .error _ => (.error e, t)

/-- Makes a directory and the missing ones above it; every step up is a shorter path. What
was made stays, even if a directory further down cannot be made. -/
def makeAllWithin : Nat → FileTree → List String → Except PathError Unit × FileTree
  | 0, t, segments => t.makeOrFind segments
  | fuel + 1, t, segments =>
    match t.makeDirectory segments with
    | .error .notFound =>
      match makeAllWithin fuel t (Path.parent segments) with
      | (.error e, t) => (.error e, t)
      | (.ok (), t) => t.makeOrFind segments
    | _ => t.makeOrFind segments

def pathLimit : Nat := 4096

def makeAll (t : FileTree) (path : String) : Except PathError Unit × FileTree :=
  if path.toList.contains '\x00' then (.error .zeroCharacter, t)
  else if pathLimit ≤ path.utf8ByteSize then (.error .nameTooLong, t)
  else makeAllWithin (Path.segments path).length t (Path.segments path)

def touch (t : FileTree) (directory name : String) : FileTree :=
  match t.walk (Path.segments directory) with
  | .error _ => t
  | .ok place =>
    let file := place ++ [name]
    if t.isFile file then t else { t with files := t.files ++ [file] }

end FileTree

end RecordStore
