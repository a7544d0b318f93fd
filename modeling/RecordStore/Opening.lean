import RecordStore.Repository

/-!
Opening a database and beginning a unit on it. A busy timeout has to fit 31 bits of
milliseconds; a greater one stops the program.
-/
namespace RecordStore

/-- Why a database was not opened, or not put to use. -/
inductive OpeningError
  | database (e : DatabaseError)
  | outside (e : StoreError)
  | unit (e : RepositoryError)
  | timeoutOverflow
deriving DecidableEq

inductive Location
  | memory (tables : Tables)
  | file (path : String)

def Location.placement : Location → Placement
  | .memory _ => .memory
  | .file _ => .file

def maxBusyTimeoutMs : Nat := 2147483647

namespace World

def connect (s : Store) (l : Location) (o : StoreOptions) :
    Except StoreError (Nat × Store) :=
  match l with
  | .memory tables => .ok (s.openPrivate tables o.foreignKeys)
  | .file path => s.openPath path o.foreignKeys

/-- Opens a connection and sets it up. The store keeps the setting of foreign keys, so
reading it back always agrees. The timeout is set on a connection that is there: where it
stops the program, the connection is lost, but not a file that it made. -/
def openDatabase (w : World) (l : Location) (o : StoreOptions) :
    Except OpeningError Nat × World :=
  let w := w.log (.openStarted l.placement)
  match connect w.store l o with
  | .error e =>
    (.error (.database (.store e)), w.log (.openFailed l.placement (.store e)))
  | .ok (connection, s) =>
    if maxBusyTimeoutMs < o.busyTimeoutMs.toNat then
      (.error .timeoutOverflow, { w with store := s.close connection })
    else
      (.ok connection, { w with store := s }.log (.opened l.placement o.foreignKeys))

def prepareConnection (w : World) (connection : Nat) (sql : Option String) :
    Except OpeningError Unit × World :=
  match sql with
  | none => (.ok (), w)
  | some sql =>
    match w.store.runBatch connection sql with
    | (.ok (), s) => (.ok (), { w with store := s })
    | (.error e, s) => (.error (.outside e), { w with store := s.close connection })

def beginUnit (w : World) (l : Location) (o : StoreOptions) (before : Option String) :
    Except OpeningError UnitOfWork × World :=
  match w.openDatabase l o with
  | (.error e, w) => (.error e, w)
  | (.ok connection, w) =>
    match w.prepareConnection connection before with
    | (.error e, w) => (.error e, w)
    | (.ok (), w) =>
      let (answer, w) := UnitOfWork.begin w connection o
      (answer.mapError .unit, w)

def readingOptions : StoreOptions := { StoreOptions.default with busyTimeoutMs := 0 }

def readTable (w : World) (path : String) (table : String) :
    Except OpeningError (List (List Value)) × World :=
  match w.openDatabase (.file path) readingOptions with
  | (.error e, w) => (.error e, w)
  | (.ok connection, w) =>
    let (rows, s) := w.store.query connection ("SELECT * FROM " ++ table) []
    ((rows.map fun rows => rows.map ResultRow.values).mapError .outside,
      { w with store := s.close connection })

end World

end RecordStore
