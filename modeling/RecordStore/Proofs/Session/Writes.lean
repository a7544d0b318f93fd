import RecordStore.Proofs.Entry.Changed
import RecordStore.Proofs.Session.Invariants
import RecordStore.Proofs.Session.Runs
import RecordStore.Proofs.Store.Writes

/-!
Writes of repositories. A record type may declare only some columns of a table, in other letters,
and its changes touch nothing else.
-/
namespace RecordStore

open Sql

namespace Repository

variable {α : Type} {u : UnitOfWork} {w : World} {d : Descriptor} {name : String}
  {Becomes : Table → Table → Nat → Prop}

/-- A change ends like its statement, if it comes to that. -/
theorem writes_change (call : Call) (r : RecordType α) (declared : call.declaration = r.declaration)
    (accepted : r.declaration.describe = .ok d)
    {build : Descriptor → Except RepositoryError Statement}
    (builds : ∀ d, build d = do
      let f ← compile call.predicate? d u.filterMode
      (call.build d f).mapError .statement)
    (asks : ∀ f statement, Filter.compile call.predicate? d u.filterMode = .ok f →
      call.build d f = .ok statement → ∀ n, w.store.Writes StoreError.IsOfMedium (some n) name
        Becomes (w.store.execute n statement.sql statement.parameters)) :
    w.store.Writes RepositoryError.IsOfMedium u.openConnection? name Becomes
      (change r call.operation build u w).outcome := by
  rw [outcome_change call r declared builds w]
  cases prepared : call.prepare u.filterMode with
  | error e => exact .failed (.refl _)
  | ok both =>
    obtain ⟨d', described, prepared⟩ := bind_eq_ok prepared
    obtain ⟨f, compiled, prepared⟩ := bind_eq_ok prepared
    obtain ⟨statement, built, done⟩ := bind_eq_ok prepared
    cases Except.ok.inj done
    rw [declared, accepted] at described
    cases described
    have writes := asks f statement (mapError_eq_ok.mp compiled) (mapError_eq_ok.mp built)
    simp only [UnitOfWork.reply, Statement.apply]
    cases u.openConnection? with
    | none => exact .failed (.refl _)
    | some n => exact (writes n).mapError fun _ of_medium => of_medium

/-- In a store in order, and sessions leave no other, a create adds one row, an update gives the
values to the declared columns of the rows that it finds, and a delete takes the rows that it
finds; all other columns, rows and tables are as they were. A change that fails leaves
everything, unless the medium has failed and the transaction is given up with it. -/
theorem writes_touch_declared (r : RecordType α) (model : α) (p : Predicate) (u : UnitOfWork)
    (w : World) (accepted : r.declaration.describe = .ok d) (orderly : w.store.IsOrderly) :
    w.store.Writes RepositoryError.IsOfMedium u.openConnection? d.table
      (fun t t' count => count = 1 ∧ t'.layout = t.layout ∧ ∃ row, t'.rows.Perm (row :: t.rows))
      (create r model u w).outcome ∧
    w.store.Writes RepositoryError.IsOfMedium u.openConnection? d.table
      (fun t t' count => ∃ found, p.Finds u.filterMode d.columns t found ∧ count = found.length ∧
        t.IsRewritten d.columns (r.values model) found t')
      (update r model p u w).outcome ∧
    w.store.Writes RepositoryError.IsOfMedium u.openConnection? d.table
      (fun t t' count => ∃ found, p.Finds u.filterMode d.columns t found ∧ count = found.length ∧
        t' = { t with rows := t.rows.filter fun row => row ∉ found })
      (delete r p u w).outcome := by
  have isOf := Declaration.describe_ok accepted
  refine ⟨?_, ?_, ?_⟩
  · refine writes_change (.create r model) r rfl accepted (fun _ => rfl)
      fun f statement _ built n => ?_
    have about := Statement.isChange_insert built
    obtain ⟨sql, _⟩ := Statement.insert_ok built
    refine Store.writes_execute orderly about (fun command read => ?_) n
    rw [sql] at read
    obtain ⟨columns, _, rfl⟩ := Command.of_read_insert isOf read
    exact Store.commands_insert d.table columns _
  · refine writes_change (.update r model p) r rfl accepted (fun _ => rfl)
      fun f statement compiled built n => ?_
    have about := Statement.isChange_update built
    obtain ⟨_, counted, _⟩ := bind_eq_ok built
    have arity := Statement.length_of_checkArity counted
    cases built.symm.trans (Statement.update_eq isOf.columns compiled arity)
    refine Store.writes_execute orderly about (fun command read => ?_) n
    obtain ⟨k, as, rfl, columns, mirrors⟩ := Command.of_read_update isOf compiled arity read
    exact Store.commands_update isOf compiled mirrors columns arity d.table
  · refine writes_change (.delete r p) r rfl accepted (fun _ => rfl)
      fun f statement compiled built n => ?_
    cases built
    have about := Statement.isChange_delete d f
    have given : (Statement.delete d f).parameters = f.parameters := by
      rw [Statement.delete_eq isOf.columns compiled]
    rw [given]
    refine Store.writes_execute orderly about (fun command read => ?_) n
    obtain ⟨k, rfl, mirrors⟩ := Command.of_read_delete isOf compiled read
    exact Store.commands_delete compiled mirrors d.table

/-- Notes are the descriptions of entries and leave their other columns out. -/
def noteRecord : RecordType (List Value) :=
  .plain ⟨"NoteRecord", some "entries", [⟨"description", .text⟩]⟩

def annotated : List Action :=
  [.begin "a" (.memory emptyTables) .default none,
    .ask "a" (.call (.create entryRecord ⟨1, none, .newYear2024⟩)),
    .ask "a" (.call (.create entryRecord ⟨2, some "old", .newYear2024⟩))]

/-- The note of an entry is written anew. Its key and its date stay. -/
theorem writes_touch_declared_note :
    noteRecord.declaration.describe = .ok ⟨"NoteRecord", "entries", [⟨"description", .text⟩]⟩ ∧
      ∃ u w, (perform annotated (.ofStore (.empty []))).2.unit? "a" = some u ∧
        (perform annotated (.ofStore (.empty []))).2.world = w ∧ w.store.IsOrderly ∧
        w.store.Writes RepositoryError.IsOfMedium u.openConnection? "entries"
          (fun t t' count => ∃ found,
            (Predicate.compare ⟨"DESCRIPTION", .eq, .text "old"⟩).Finds u.filterMode
              [⟨"description", .text⟩] t found ∧ count = found.length ∧
            t.IsRewritten [⟨"description", .text⟩] [.text "new"] found t')
          (update noteRecord [.text "new"] (.compare ⟨"DESCRIPTION", .eq, .text "old"⟩) u
            w).outcome ∧
        u.tables? (update noteRecord [.text "new"]
            (.compare ⟨"DESCRIPTION", .eq, .text "old"⟩) u w).world
          = some [⟨entriesLayout, [⟨1, [.null, .text "2024-01-01"]⟩,
            ⟨2, [.text "new", .text "2024-01-01"]⟩]⟩, ⟨linksLayout, []⟩, ⟨itemsLayout, []⟩] := by
  have accepted : noteRecord.declaration.describe
      = .ok ⟨"NoteRecord", "entries", [⟨"description", .text⟩]⟩ := by decide
  have orderly : (perform annotated (.ofStore (.empty []))).2.world.store.IsOrderly :=
    Store.invariant_isOrderly.perform (Store.isOrderly_empty [])
      (by simp [annotated, Action.Keeps, Location.Brings, emptyTables, Table.IsKeyed])
  obtain ⟨u, w, unit, world, after⟩ :
      ∃ u w, (perform annotated (.ofStore (.empty []))).2.unit? "a" = some u ∧
        (perform annotated (.ofStore (.empty []))).2.world = w ∧
        u.tables? (update noteRecord [.text "new"]
            (.compare ⟨"DESCRIPTION", .eq, .text "old"⟩) u w).world
          = some [⟨entriesLayout, [⟨1, [.null, .text "2024-01-01"]⟩,
            ⟨2, [.text "new", .text "2024-01-01"]⟩]⟩, ⟨linksLayout, []⟩, ⟨itemsLayout, []⟩] :=
    ⟨_, _, rfl, rfl, by decide +kernel⟩
  rw [world] at orderly
  obtain ⟨_, updates, _⟩ := writes_touch_declared noteRecord [.text "new"]
    (.compare ⟨"DESCRIPTION", .eq, .text "old"⟩) u w accepted orderly
  exact ⟨accepted, u, w, unit, world, orderly, updates, after⟩

/-- The file may have no more pages than its tables take while they are empty. -/
def crowded : List Action :=
  [.begin "a" (.file "/a.db") .default (some "PRAGMA max_page_count = 4"),
    .ask "a" (.call (.create entryRecord (UnitOfWork.lengthy 1))),
    .ask "a" (.call (.create entryRecord (UnitOfWork.lengthy 2))),
    .ask "a" (.call (.create entryRecord (UnitOfWork.lengthy 3)))]

/-- A full medium takes the transaction with it, so the entries before are lost as well. -/
theorem writes_touch_declared_full :
    ∃ u w, (perform crowded (.ofStore History.quietWorld.store)).2.unit? "a" = some u ∧
      (perform crowded (.ofStore History.quietWorld.store)).2.world = w ∧
      (u.table? w "ENTRIES").map (·.rows.map Row.key) = some [1, 2, 3] ∧
      (create entryRecord (UnitOfWork.lengthy 4) u w).answer
        = .error (.execution ⟨.create, "EntryRecord", .failed (.medium .full)⟩) ∧
      ((create entryRecord (UnitOfWork.lengthy 4) u w).unit.table?
        (create entryRecord (UnitOfWork.lengthy 4) u w).world "ENTRIES").map (·.rows.map Row.key)
          = some [] := by
  obtain ⟨u, w, unit, world, before, failure, after⟩ :
      ∃ u w, (perform crowded (.ofStore History.quietWorld.store)).2.unit? "a" = some u ∧
        (perform crowded (.ofStore History.quietWorld.store)).2.world = w ∧
        (u.table? w "ENTRIES").map (·.rows.map Row.key) = some [1, 2, 3] ∧
        failureOf? (create entryRecord (UnitOfWork.lengthy 4) u w).answer
          = some ⟨.create, "EntryRecord", .failed (.medium .full)⟩ ∧
        ((create entryRecord (UnitOfWork.lengthy 4) u w).unit.table?
          (create entryRecord (UnitOfWork.lengthy 4) u w).world "ENTRIES").map (·.rows.map Row.key)
          = some [] :=
    ⟨_, _, rfl, rfl, by decide +kernel⟩
  exact ⟨u, w, unit, world, before, failureOf?_eq_some.mp failure, after⟩

end Repository

end RecordStore
