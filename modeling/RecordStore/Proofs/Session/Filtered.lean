import RecordStore.Proofs.Entry.Rows
import RecordStore.Proofs.Session.Replies
import RecordStore.Proofs.Sql.ChangeText
import RecordStore.Service

/-!
Changes keep their filter. A statement without a WHERE would concern every row of its table, and
the WHERE is left out where the filter is empty. No predicate has an empty filter, so whatever
an update or a delete asks of its unit ends in the whole filter of its predicate.
-/
namespace RecordStore

/-- A filter is empty where there is no predicate, and only there. -/
theorem Filter.isEmpty_iff {decl : Declaration} {d : Descriptor} {p : Option Predicate}
    {mode : FilterMode} {f : Filter} (accepted : decl.describe = .ok d)
    (compiled : compile p d mode = .ok f) : f.isEmpty = true ↔ p = none := by
  cases p with
  | none =>
    cases compiled
    exact iff_of_true rfl rfl
  | some p =>
    rw [isEmpty_ofPredicate (Declaration.describe_ok accepted).columns compiled]
    simp

/-- What a change on the rows of a predicate does. It fails before its unit is asked, and then
does nothing else, or it asks the unit for one statement: the head, the word WHERE and the
whole filter. -/
inductive Call.AsksFiltered (call : Call) (p : Predicate) (head : Descriptor → String)
    (u : UnitOfWork) (w : World) : UnitStep Nat → Prop
  | configuration {e : SchemaError} : call.declaration.describe = .error e →
      AsksFiltered call p head u w ⟨.error (.configuration e), u, (w.resolve call.declaration).2⟩
  | unsupportedPredicate {d : Descriptor} {e : PredicateError} :
      call.declaration.describe = .ok d → Filter.compile (some p) d u.filterMode = .error e →
      AsksFiltered call p head u w
        ⟨.error (.unsupportedPredicate e), u, (w.resolve call.declaration).2⟩
  | statement {d : Descriptor} {values : List Value} : call.declaration.describe = .ok d →
      call.values? = some values → values.length ≠ d.columns.length →
      AsksFiltered call p head u w
        ⟨.error (.statement ⟨d.table, d.columns.length, values.length⟩), u,
          (w.resolve call.declaration).2⟩
  | asks {d : Descriptor} {f : Filter} : call.declaration.describe = .ok d →
      Filter.compile (some p) d u.filterMode = .ok f → f.text ≠ "" →
      AsksFiltered call p head u w
        (Repository.finish call.operation d id
          (u.execute (w.resolve call.declaration).2 call.operation d.record
            ⟨head d ++ " WHERE " ++ f.text, call.values?.getD [] ++ f.parameters⟩))

namespace Repository

variable {α : Type} {u : UnitOfWork} {w : World}

/-- A change asks in this way if its statements, where there are any, end in the filter. -/
theorem asksFiltered_change (call : Call) (r : RecordType α)
    (declared : call.declaration = r.declaration) {p : Predicate} {head : Descriptor → String}
    {build : Descriptor → Except RepositoryError Statement}
    (builds : ∀ d, build d = do
      let f ← compile (some p) d u.filterMode
      (call.build d f).mapError .statement)
    (filters : ∀ d f, r.declaration.describe = .ok d →
      Filter.compile (some p) d u.filterMode = .ok f → call.Fits d →
      call.build d f = .ok ⟨head d ++ " WHERE " ++ f.text, call.values?.getD [] ++ f.parameters⟩) :
    call.AsksFiltered p head u w (change r call.operation build u w) := by
  rw [change]
  cases accepted : r.declaration.describe with
  | error e =>
    rw [withStatement_of_error accepted, ← declared]
    exact .configuration (declared ▸ accepted)
  | ok d =>
    rw [withStatement_of_ok accepted, builds d, ← declared]
    cases compiled : Filter.compile (some p) d u.filterMode with
    | error e =>
      rw [compile, compiled]
      exact .unsupportedPredicate (declared ▸ accepted) compiled
    | ok f =>
      have some : f.text ≠ "" := by
        have isOf := Declaration.describe_ok accepted
        have filled := Filter.isEmpty_ofPredicate isOf.columns compiled
        simpa [Filter.isEmpty] using filled
      rw [compile, compiled, mapError_ok, ok_bind]
      by_cases fits : call.Fits d
      · rw [filters d f accepted compiled fits]
        exact .asks (declared ▸ accepted) compiled some
      · simp only [Call.Fits, not_forall] at fits
        obtain ⟨values, given, wrong⟩ := fits
        rw [Call.build_error given wrong]
        exact .statement (declared ▸ accepted) given wrong

theorem update_asksFiltered (r : RecordType α) (model : α) (p : Predicate) :
    (Call.update r model p).AsksFiltered p Statement.updateAll u w (update r model p u w) := by
  refine asksFiltered_change (.update r model p) r rfl (fun d => rfl)
    fun d f accepted compiled fits => ?_
  exact Statement.update_eq (Declaration.describe_ok accepted).columns compiled (fits _ rfl)

theorem delete_asksFiltered (r : RecordType α) (p : Predicate) :
    (Call.delete r p).AsksFiltered p (fun d => "DELETE FROM " ++ d.table) u w
      (delete r p u w) := by
  refine asksFiltered_change (.delete r p) r rfl (fun d => rfl) fun d f accepted compiled _ => ?_
  exact congrArg Except.ok
    (Statement.delete_eq (Declaration.describe_ok accepted).columns compiled)

end Repository

/-- Whatever the repository or the service of a record type asks for, on the rows of a
predicate, is filtered by all of that predicate. -/
theorem changes_keep_filter {α : Type} (r : RecordType α) (model : α) (p : Predicate)
    (u : UnitOfWork) (w : World) :
    (∀ d, r.declaration.describe = .ok d → ∀ q mode f, Filter.compile q d mode = .ok f →
      (f.isEmpty = true ↔ q = none)) ∧
    (Call.update r model p).AsksFiltered p Statement.updateAll u w
      (Repository.update r model p u w) ∧
    (Call.delete r p).AsksFiltered p (fun d => "DELETE FROM " ++ d.table) u w
      (Repository.delete r p u w) ∧
    (Service.mk r u).update model p w
      = (Service.mk r u).after (Repository.update r model p u w) ∧
    (Service.mk r u).delete p w = (Service.mk r u).after (Repository.delete r p u w) :=
  ⟨fun _ accepted _ _ _ compiled => Filter.isEmpty_iff accepted compiled,
    Repository.update_asksFiltered r model p, Repository.delete_asksFiltered r p, rfl, rfl⟩

/-- An OR at the top of a predicate needs no parentheses behind the WHERE. -/
theorem changes_keep_filter_or :
    Repository.delete entryRecord (.or (.compareWith "id" .eq (.integer 1)) (.isNull "Date"))
        ⟨some 0, .ongoing, none, .bound⟩ (.ofStore (.empty []))
      = Repository.finish .delete Entry.descriptor id
        (UnitOfWork.execute ⟨some 0, .ongoing, none, .bound⟩
          ((World.ofStore (.empty [])).resolve Entry.declaration).2 .delete "EntryRecord"
          ⟨"DELETE FROM ENTRIES WHERE ID = ? OR DATE IS NULL", [.integer 1]⟩) := by
  obtain ⟨_, _, asked, _⟩ := changes_keep_filter entryRecord
    ⟨1, none, ⟨2024, 1, 1, by decide, by decide⟩⟩
    (.or (.compareWith "id" .eq (.integer 1)) (.isNull "Date"))
    ⟨some 0, .ongoing, none, .bound⟩ (.ofStore (.empty []))
  have accepted : (Call.delete entryRecord (.or (.compareWith "id" .eq (.integer 1))
      (.isNull "Date"))).declaration.describe = .ok Entry.descriptor := Entry.describe_declaration
  have compiled : Filter.compile (some (.or (.compareWith "id" .eq (.integer 1)) (.isNull "Date")))
      Entry.descriptor .bound = .ok ⟨"ID = ? OR DATE IS NULL", [.integer 1]⟩ :=
    eq_ok_of_toOption (by decide)
  generalize Repository.delete entryRecord _ _ _ = step at asked ⊢
  cases asked with
  | configuration refused => rw [accepted] at refused; cases refused
  | unsupportedPredicate known refused =>
    cases Except.ok.inj (accepted.symm.trans known)
    rw [compiled] at refused
    cases refused
  | statement _ given _ => cases given
  | asks known filtered _ =>
    cases Except.ok.inj (accepted.symm.trans known)
    cases Except.ok.inj (compiled.symm.trans filtered)
    rfl

end RecordStore
