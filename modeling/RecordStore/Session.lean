import RecordStore.Opening

/-!
Sessions: units of work under names, side by side in one world. A unit that loses its name
is disposed.
-/
namespace RecordStore

structure Session where
  world : World
  units : List (String × UnitOfWork)

namespace Session

def ofStore (s : Store) : Session := ⟨.ofStore s, []⟩

def unit? (s : Session) (name : String) : Option UnitOfWork := s.units.lookup name

def put (s : Session) (name : String) (u : UnitOfWork) (w : World) : Session :=
  ⟨w, s.units.filter (·.1 != name) ++ [(name, u)]⟩

/-- Takes a name away and disposes of its unit; tells whether there was one. -/
def drop (s : Session) (name : String) : Bool × Session :=
  match s.unit? name with
  | none => (false, s)
  | some u => (true, ⟨(u.dispose s.world).2, s.units.filter (·.1 != name)⟩)

/-- Begins a unit under a name. Only a success replaces the unit that had it before. -/
def begin (s : Session) (name : String) (l : Location) (o : StoreOptions)
    (before : Option String) : Except OpeningError Unit × Session :=
  match s.world.beginUnit l o before with
  | (.error e, w) => (.error e, { s with world := w })
  | (.ok u, w) =>
    let s := ({ s with world := w }.drop name).2
    (.ok (), s.put name u s.world)

def act {α : Type} (s : Session) (name : String) (f : UnitOfWork → World → UnitStep α) :
    Option (Except RepositoryError α × Session) :=
  (s.unit? name).map fun u =>
    let step := f u s.world
    (step.answer, s.put name step.unit step.world)

def disposing (u : UnitOfWork) (w : World) : UnitStep Unit :=
  let (u, w) := u.dispose w
  ⟨.ok (), u, w⟩

def takeEvents (s : Session) : List Event × Session :=
  (s.world.events, { s with world := { s.world with events := [] } })

end Session

end RecordStore
