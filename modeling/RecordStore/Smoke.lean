import RecordStore.Logging
import RecordStore.Service

/-!
The smoke run of the command line: one entry goes into a private store and comes back.
-/
namespace RecordStore.Smoke

def entry : Entry := ⟨1, some "first entry", .newYear2024⟩

inductive Trouble
  | opening (e : OpeningError)
  | repository (e : RepositoryError)
deriving DecidableEq

def Trouble.message : Trouble → String
  | .opening (.database e) => e.message
  | .opening (.outside e) => e.message
  | .opening (.unit e) => e.message
  | .opening .timeoutOverflow => "busy timeout out of range"
  | .repository e => e.message

structure Outcome where
  result : Except Trouble (List String)
  events : List Event

def report (created : Nat) (same : Bool) : List String :=
  [s!"genrepo_core version={version}", s!"created rows={created}", s!"roundtrip ok={same}"]

def run : Outcome :=
  let w := World.ofStore (Store.empty [])
  match w.beginUnit (.memory [⟨entriesLayout, []⟩]) .default none with
  | (.error e, w) => ⟨.error (.opening e), w.events⟩
  | (.ok unit, w) =>
    let service : Service Entry := ⟨entryRecord, unit⟩
    let byId := Predicate.compareWith "ID" .eq (.integer entry.id)
    let (created, service, w) := service.create entry w
    let (loaded, service, w) := service.get (some byId) w
    let (done, service, w) := service.commit w
    let w := match done with
      | .ok () => w.log .smokePassed
      | .error _ => w
    let (_, w) := service.dispose w
    let lines := do
      let created ← created
      let loaded ← loaded
      done
      return report created (decide (loaded = some entry))
    ⟨lines.mapError .repository, w.events⟩

end RecordStore.Smoke
