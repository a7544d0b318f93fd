import RecordStore.Event
import RecordStore.Logging.FileTree
import RecordStore.Text.Blank

/-!
Logging of a process. The first successful start fixes the level and the target; later
ones only succeed if they ask for the same.
-/
namespace RecordStore

inductive LogTarget
  | stderr
  | directory (path : String)
deriving DecidableEq

namespace LogTarget

def text : LogTarget → String
  | .stderr => "stderr"
  | .directory path => path

def same : LogTarget → LogTarget → Bool
  | .stderr, .stderr => true
  | .directory a, .directory b => Path.same a b
  | _, _ => false

end LogTarget

inductive LoggingError
  | unsupportedLevel (level : String)
  | relativeDirectory (path : String)
  | directoryNotMade (path cause : String)
  | alreadyActive (active requested : String)
deriving DecidableEq

namespace LoggingError

def message : LoggingError → String
  | .unsupportedLevel level =>
    s!"unsupported log level `{level}`; expected trace|debug|info|warn|error"
  | .relativeDirectory path => s!"log_dir must be an absolute path, got `{path}`"
  | .directoryNotMade path cause => s!"failed to create log directory `{path}`: {cause}"
  | .alreadyActive active requested =>
    s!"logging already initialized as `{active}`; refusing to switch to `{requested}`"

def sources : LoggingError → List String
  | .directoryNotMade _ cause => [cause]
  | _ => []

end LoggingError

namespace Level

def name : Level → String
  | .error => "error"
  | .warn => "warn"
  | .info => "info"
  | .debug => "debug"
  | .trace => "trace"

/-- A level by its name, without blanks around it and whatever its ASCII case. -/
def ofName (s : String) : Except LoggingError Level :=
  let name := Schema.foldCase (trimBlanks s)
  match name with
  | "trace" => .ok .trace
  | "debug" => .ok .debug
  | "info" => .ok .info
  | "warn" | "warning" => .ok .warn
  | "error" => .ok .error
  | _ => .error (.unsupportedLevel name)

end Level

structure LogSettings where
  level : Level
  target : LogTarget
deriving DecidableEq

namespace LogSettings

def text (s : LogSettings) : String := s!"{s.level.name}@{s.target.text}"

def same (a b : LogSettings) : Bool := a.level == b.level && a.target.same b.target

def ofOptions (o : LogOptions) : Except LoggingError LogSettings := do
  let level ← Level.ofName o.level
  match o.logDir with
  | none => return ⟨level, .stderr⟩
  | some path =>
    if !Path.isAbsolute path then throw (.relativeDirectory path)
    return ⟨level, .directory path⟩

end LogSettings

/-- What writes the records, by its reason not to start with some settings. -/
abbrev LogBackend := LogSettings → Option String

/-- Why a start failed, where the backend may be the one that does not start. -/
inductive StartError
  | refused (e : LoggingError)
  | backend (cause : String)
deriving DecidableEq

namespace StartError

def message : StartError → String
  | .refused e => e.message
  | .backend cause => s!"failed to start logger: {cause}"

def sources : StartError → List String
  | .refused e => e.sources
  | .backend cause => [cause]

end StartError

structure Logging where
  active : Option LogSettings
  written : List Event
  tree : FileTree

namespace Logging

def logFileName : String := "genrepo_rCURRENT.log"

def inactive (tree : FileTree) : Logging := ⟨none, [], tree⟩

def record (l : Logging) (e : Event) : Logging :=
  match l.active with
  | none => l
  | some s =>
    if s.level.verbosity < e.level.verbosity then l
    else
      match s.target with
      | .stderr => { l with written := l.written ++ [e] }
      | .directory path => { l with tree := l.tree.touch path logFileName }

def recordAll (l : Logging) (es : List Event) : Logging := es.foldl record l

/-- Makes the directory of the target. A failure may leave directories above it. -/
def makeTarget (tree : FileTree) : LogTarget → Except LoggingError Unit × FileTree
  | .stderr => (.ok (), tree)
  | .directory path =>
    let (made, tree) := tree.makeAll path
    (made.mapError fun cause => .directoryNotMade path cause.message, tree)

def start (l : Logging) (s : LogSettings) : Except LoggingError Unit × Logging :=
  let (made, tree) := makeTarget l.tree s.target
  match made with
  | .error e => (.error e, { l with tree := tree })
  | .ok () =>
    let l := { l with active := some s, tree := tree }
    (.ok (), l.record (.loggingStarted s.level.name s.target.text))

def init (l : Logging) (o : LogOptions) : Except LoggingError Unit × Logging :=
  match LogSettings.ofOptions o with
  | .error e => (.error e, l)
  | .ok requested =>
    match l.active with
    | none => l.start requested
    | some active =>
      if active.same requested then (.ok (), l)
      else (.error (.alreadyActive active.text requested.text), l)

/-- The backend is started once the directory is there, which stays if it does not start. -/
def startOn (backend : LogBackend) (l : Logging) (s : LogSettings) :
    Except StartError Unit × Logging :=
  match backend s with
  | none =>
    let (answer, l) := l.start s
    (answer.mapError .refused, l)
  | some cause =>
    let (made, tree) := makeTarget l.tree s.target
    match made with
    | .error e => (.error (.refused e), { l with tree := tree })
    | .ok () => (.error (.backend cause), { l with tree := tree })

/-- A start on a backend that may not start. On one that does, it is `init`. -/
def initOn (backend : LogBackend) (l : Logging) (o : LogOptions) :
    Except StartError Unit × Logging :=
  match l.active with
  | some _ =>
    let (answer, l) := l.init o
    (answer.mapError .refused, l)
  | none =>
    match LogSettings.ofOptions o with
    | .error e => (.error (.refused e), l)
    | .ok requested => l.startOn backend requested

end Logging

end RecordStore
