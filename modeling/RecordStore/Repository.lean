import RecordStore.UnitOfWork

/-!
Repository operations on a unit of work. A record type is resolved first, then the
predicate is compiled, then the values are counted; only then the unit is asked.
-/
namespace RecordStore

namespace World

/-- The descriptor of a record type. The first time, and every time that it fails, this
is logged. -/
def resolve (w : World) (d : Declaration) : Except RepositoryError Descriptor × World :=
  match d.describe with
  | .error e => (.error (.configuration e), w.log (.schemaFailed d.record e))
  | .ok descriptor =>
    if d.record ∈ w.resolved then (.ok descriptor, w)
    else
      (.ok descriptor,
        { w with resolved := d.record :: w.resolved }.log
          (.schemaResolved d.record descriptor.table descriptor.columns.length))

end World

namespace Repository

variable {α : Type}

def compile (p : Option Predicate) (d : Descriptor) (mode : FilterMode) :
    Except RepositoryError Filter :=
  (Filter.compile p d mode).mapError .unsupportedPredicate

def withStatement {β : Type} (r : RecordType α) (u : UnitOfWork) (w : World)
    (build : Descriptor → Except RepositoryError Statement)
    (run : Descriptor → Statement → World → UnitStep β) : UnitStep β :=
  match w.resolve r.declaration with
  | (.error e, w) => ⟨.error e, u, w⟩
  | (.ok d, w) =>
    match build d with
    | .error e => ⟨.error e, u, w⟩
    | .ok statement => run d statement w

/-- Logs the end of an operation that succeeded, with the rows it concerned. -/
def finish {β : Type} (operation : Operation) (d : Descriptor) (rows : β → Nat)
    (s : UnitStep β) : UnitStep β :=
  match s.answer with
  | .ok value => { s with world := s.world.log (.operationDone operation d.record (rows value)) }
  | .error _ => s

def select (r : RecordType α) (operation : Operation) (p : Option Predicate) (u : UnitOfWork)
    (w : World) : UnitStep (List α) :=
  withStatement r u w
    (fun d => do return Statement.select d (← compile p d u.filterMode))
    fun d statement w =>
      finish operation d List.length (u.query w operation d.record r.ofRow statement)

def change (r : RecordType α) (operation : Operation)
    (build : Descriptor → Except RepositoryError Statement) (u : UnitOfWork) (w : World) :
    UnitStep Nat :=
  withStatement r u w build fun d statement w =>
    finish operation d id (u.execute w operation d.record statement)

def getAll (r : RecordType α) (p : Option Predicate) (u : UnitOfWork) (w : World) :
    UnitStep (List α) := select r .getAll p u w

def get (r : RecordType α) (p : Option Predicate) (u : UnitOfWork) (w : World) :
    UnitStep (Option α) :=
  let s := select r .get p u w
  ⟨s.answer.map List.head?, s.unit, s.world⟩

def create (r : RecordType α) (model : α) (u : UnitOfWork) (w : World) : UnitStep Nat :=
  change r .create (fun d => (Statement.insert d (r.values model)).mapError .statement) u w

def update (r : RecordType α) (model : α) (p : Predicate) (u : UnitOfWork) (w : World) :
    UnitStep Nat :=
  change r .update
    (fun d => do
      let filter ← compile (some p) d u.filterMode
      (Statement.update d (r.values model) filter).mapError .statement) u w

def delete (r : RecordType α) (p : Predicate) (u : UnitOfWork) (w : World) : UnitStep Nat :=
  change r .delete
    (fun d => do return Statement.delete d (← compile (some p) d u.filterMode)) u w

end Repository

end RecordStore
