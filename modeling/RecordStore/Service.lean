import RecordStore.Opening

/-!
A service owns a unit of work and answers for one record type.
-/
namespace RecordStore

structure Service (α : Type) where
  record : RecordType α
  unit : UnitOfWork

namespace Service

variable {α β : Type}

def after (s : Service α) (step : UnitStep β) :
    Except RepositoryError β × Service α × World :=
  (step.answer, { s with unit := step.unit }, step.world)

def getAll (s : Service α) (p : Option Predicate) (w : World) :
    Except RepositoryError (List α) × Service α × World :=
  s.after (Repository.getAll s.record p s.unit w)

def get (s : Service α) (p : Option Predicate) (w : World) :
    Except RepositoryError (Option α) × Service α × World :=
  s.after (Repository.get s.record p s.unit w)

def create (s : Service α) (model : α) (w : World) :
    Except RepositoryError Nat × Service α × World :=
  s.after (Repository.create s.record model s.unit w)

def update (s : Service α) (model : α) (p : Predicate) (w : World) :
    Except RepositoryError Nat × Service α × World :=
  s.after (Repository.update s.record model p s.unit w)

def delete (s : Service α) (p : Predicate) (w : World) :
    Except RepositoryError Nat × Service α × World :=
  s.after (Repository.delete s.record p s.unit w)

def commit (s : Service α) (w : World) : Except RepositoryError Unit × Service α × World :=
  s.after (s.unit.commit w)

def rollback (s : Service α) (w : World) : Except RepositoryError Unit × Service α × World :=
  s.after (s.unit.rollback w)

def dispose (s : Service α) (w : World) : Service α × World :=
  let (unit, w) := s.unit.dispose w
  ({ s with unit := unit }, w)

end Service

end RecordStore
