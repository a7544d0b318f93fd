import RecordStore.Proofs.Repository
import RecordStore.Proofs.Store.Transactions

/-!
Calls of a unit. A call is refused before it reaches the store, or it asks the store one
statement about rows, and a failure of that statement is remembered.
-/
namespace RecordStore

open Sql

inductive Call : Type 1
  | getAll {α : Type} (r : RecordType α) (p : Option Predicate)
  | get {α : Type} (r : RecordType α) (p : Option Predicate)
  | create {α : Type} (r : RecordType α) (model : α)
  | update {α : Type} (r : RecordType α) (model : α) (p : Predicate)
  | delete {α : Type} (r : RecordType α) (p : Predicate)

namespace Call

def Answer : Call → Type
  | @getAll α _ _ => List α
  | @get α _ _ => Option α
  | create _ _ | update _ _ _ | delete _ _ => Nat

def run : (call : Call) → UnitOfWork → World → UnitStep call.Answer
  | getAll r p, u, w => Repository.getAll r p u w
  | get r p, u, w => Repository.get r p u w
  | create r model, u, w => Repository.create r model u w
  | update r model p, u, w => Repository.update r model p u w
  | delete r p, u, w => Repository.delete r p u w

end Call

namespace UnitOfWork

/-- All tables, as the unit sees them. -/
def tables? (u : UnitOfWork) (w : World) : Option Tables := do
  let id ← u.openConnection?
  let c ← w.store.connection? id
  return w.store.visible c

variable {β γ : Type} {mode : FilterMode} {op : UnitOfWork → World → UnitStep β}

structure Gives (s : UnitStep β) (answer : Except RepositoryError β) (u : UnitOfWork)
    (store : Store) : Prop where
  answer : s.answer = answer
  unit : s.unit = u
  store : s.world.store = store

def Refuses (mode : FilterMode) (op : UnitOfWork → World → UnitStep β) (e : RepositoryError) :
    Prop :=
  ∀ u w, u.filterMode = mode → Gives (op u w) (.error e) u w.store

def Asks (mode : FilterMode) (op : UnitOfWork → World → UnitStep β)
    (ask : Store → Nat → Except StoreError β × Store) : Prop :=
  ∀ u w, u.filterMode = mode →
    (u.openConnection? = none → ∃ e, Gives (op u w) (.error e) u w.store) ∧
    ∀ n, u.openConnection? = some n →
      (∀ b, (ask w.store n).1 = .ok b → Gives (op u w) (.ok b) u (ask w.store n).2) ∧
      ∀ e, (ask w.store n).1 = .error e → ∃ failed, failed.error = e ∧
        Gives (op u w) (.error (.execution failed))
          { u with failure := u.failure.or (some failed) } (ask w.store n).2

theorem Gives.finish {s : UnitStep β} {answer : Except RepositoryError β} {u : UnitOfWork}
    {store : Store} (gives : Gives s answer u store) (operation : Operation) (d : Descriptor)
    (rows : β → Nat) : Gives (Repository.finish operation d rows s) answer u store where
  answer := by rw [Repository.finish_answer, gives.answer]
  unit := by rw [Repository.finish_unit, gives.unit]
  store := by rw [Repository.finish_store, gives.store]

theorem gives_observe_ok (u : UnitOfWork) (w : World) (operation : Operation) (entity : String)
    (b : β) : Gives (u.observe w operation entity (.ok b)) (.ok b) u w.store :=
  ⟨rfl, rfl, rfl⟩

theorem gives_observe_error (u : UnitOfWork) (w : World) (operation : Operation)
    (entity : String) (e : StoreError) :
    Gives (u.observe w operation entity (.error e : Except StoreError β))
      (.error (.execution ⟨operation, entity, e⟩))
      { u with failure := u.failure.or (some ⟨operation, entity, e⟩) } w.store :=
  ⟨rfl, rfl, rfl⟩

theorem asks_query (r : RecordType β) (d : Descriptor) (operation : Operation)
    (statement : Statement) :
    Asks mode (fun u w => Repository.finish operation d List.length
        (u.query (w.resolve r.declaration).2 operation d.record r.ofRow statement))
      fun s n => ((s.query n statement.sql statement.parameters).1 >>= (·.mapM r.ofRow),
        (s.query n statement.sql statement.parameters).2) := by
  intro u w _
  have store := w.resolve_store r.declaration
  dsimp only
  generalize (w.resolve r.declaration).2 = w' at store
  constructor
  · intro closed
    have gives : Gives (u.query w' operation d.record r.ofRow statement)
        (.error (.notOpen u.state operation.name)) u w.store := by
      rw [query, closed, ← store]
      exact ⟨rfl, rfl, rfl⟩
    exact ⟨_, gives.finish operation d List.length⟩
  · intro n opened
    have asked : u.query w' operation d.record r.ofRow statement
        = u.observe { w' with store := (w.store.query n statement.sql statement.parameters).2 }
            operation d.record ((w.store.query n statement.sql statement.parameters).1 >>=
              (·.mapM r.ofRow)) := by
      rw [query, opened, store]
      rfl
    rw [asked]
    constructor
    · intro b answered
      rw [answered]
      exact (gives_observe_ok ..).finish operation d List.length
    · intro e answered
      rw [answered]
      exact ⟨_, rfl, (gives_observe_error ..).finish operation d List.length⟩

theorem asks_execute (decl : Declaration) (d : Descriptor) (operation : Operation)
    (statement : Statement) :
    Asks mode (fun u w => Repository.finish operation d id
        (u.execute (w.resolve decl).2 operation d.record statement))
      fun s n => s.execute n statement.sql statement.parameters := by
  intro u w _
  have store := w.resolve_store decl
  dsimp only
  generalize (w.resolve decl).2 = w' at store
  constructor
  · intro closed
    have gives : Gives (u.execute w' operation d.record statement)
        (.error (.notOpen u.state operation.name)) u w.store := by
      rw [execute, closed, ← store]
      exact ⟨rfl, rfl, rfl⟩
    exact ⟨_, gives.finish operation d id⟩
  · intro n opened
    have asked : u.execute w' operation d.record statement
        = u.observe { w' with store := (w.store.execute n statement.sql statement.parameters).2 }
            operation d.record (w.store.execute n statement.sql statement.parameters).1 := by
      rw [execute, opened, store]
    rw [asked]
    constructor
    · intro b answered
      rw [answered]
      exact (gives_observe_ok ..).finish operation d id
    · intro e answered
      rw [answered]
      exact ⟨_, rfl, (gives_observe_error ..).finish operation d id⟩

theorem Asks.congr {op' : UnitOfWork → World → UnitStep β}
    {ask : Store → Nat → Except StoreError β × Store} (asks : Asks mode op' ask)
    (same : ∀ u w, u.filterMode = mode → op u w = op' u w) : Asks mode op ask := by
  intro u w hmode
  rw [same u w hmode]
  exact asks u w hmode

/-- What a call does, once it is known how the unit writes its filters. -/
inductive IsSettled (mode : FilterMode) (op : UnitOfWork → World → UnitStep β) : Prop
  | refused {e : RepositoryError} : Refuses mode op e → IsSettled mode op
  | asked {ask : Store → Nat → Except StoreError β × Store} : Asks mode op ask →
      (∀ c : Connection, c.inTransaction = true →
        Store.Repeats StoreError.IsOfMedium (fun s n => s.connection? n = some c) c ask) →
          IsSettled mode op

theorem IsSettled.map (settled : IsSettled mode op) (f : β → γ) :
    IsSettled mode fun u w => ⟨(op u w).answer.map f, (op u w).unit, (op u w).world⟩ := by
  cases settled with
  | @refused e refuses =>
    refine .refused (e := e) fun u w hmode => ?_
    obtain ⟨answer, unit, store⟩ := refuses u w hmode
    exact ⟨congrArg (Except.map f) answer, unit, store⟩
  | asked asks repeats =>
    refine .asked ?_ fun c transaction =>
      Store.Repeats.bind (repeats c transaction) fun b => .ok (f b)
    intro u w hmode
    obtain ⟨closed, opened⟩ := asks u w hmode
    constructor
    · intro h
      obtain ⟨e, answer, unit, store⟩ := closed h
      exact ⟨e, congrArg (Except.map f) answer, unit, store⟩
    · intro n h
      constructor
      · intro b answered
        obtain ⟨a, asked, made⟩ := bind_eq_ok answered
        obtain ⟨answer, unit, store⟩ := (opened n h).1 a asked
        cases made
        exact ⟨congrArg (Except.map f) answer, unit, store⟩
      · intro e answered
        have asked : (_ : Except StoreError β × Store).1 = .error e := bind_ok_eq_error answered
        obtain ⟨failed, cause, answer, unit, store⟩ := (opened n h).2 e asked
        exact ⟨failed, cause, congrArg (Except.map f) answer, unit, store⟩

end UnitOfWork

namespace Repository

open UnitOfWork

variable {α : Type} {mode : FilterMode}

theorem settled_select (r : RecordType α) (operation : Operation) (p : Option Predicate) :
    IsSettled mode (select r operation p) := by
  cases accepted : r.declaration.describe with
  | error e =>
    refine .refused (e := .configuration e) fun u w _ => ?_
    rw [select, withStatement_of_error accepted]
    exact ⟨rfl, rfl, w.resolve_store _⟩
  | ok d =>
    cases compiled : compile p d mode with
    | error e =>
      refine .refused (e := e) fun u w hmode => ?_
      rw [select, withStatement_of_ok accepted, hmode, compiled]
      exact ⟨rfl, rfl, w.resolve_store _⟩
    | ok f =>
      refine .asked ((asks_query r d operation (Statement.select d f)).congr fun u w hmode => ?_)
        fun c transaction => ?_
      · rw [select, withStatement_of_ok accepted, hmode, compiled]
        rfl
      · exact Store.Repeats.bind
          (Store.repeats_query (Statement.isAboutRows_select d f).isPlain _ transaction) _

/-- A change on an open unit answers what the store does with its statement. -/
theorem gives_change (r : RecordType α) (operation : Operation)
    (build : Descriptor → Except RepositoryError Statement) {d : Descriptor}
    {statement : Statement} (accepted : r.declaration.describe = .ok d)
    (built : build d = .ok statement) {u : UnitOfWork} {n : Nat}
    (opened : u.openConnection? = some n) (w : World) :
    (∀ count s, w.store.execute n statement.sql statement.parameters = (.ok count, s) →
      Gives (change r operation build u w) (.ok count) u s) ∧
    ∀ e s, w.store.execute n statement.sql statement.parameters = (.error e, s) →
      ∃ failed, Gives (change r operation build u w) (.error (.execution failed))
        { u with failure := u.failure.or (some failed) } s := by
  obtain ⟨ok, error⟩ :=
    (asks_execute r.declaration d operation statement u w rfl).2 n opened
  have changed : change r operation build u w = finish operation d id
      (u.execute (w.resolve r.declaration).2 operation d.record statement) := by
    rw [change, withStatement_of_ok accepted, built]
  dsimp only at ok error
  rw [changed]
  constructor
  · intro count s executed
    rw [executed] at ok
    exact ok count rfl
  · intro e s executed
    rw [executed] at error
    obtain ⟨failed, _, gives⟩ := error e rfl
    exact ⟨failed, gives⟩

theorem settled_change (r : RecordType α) (operation : Operation)
    (build : FilterMode → Descriptor → Except RepositoryError Statement)
    (about : ∀ d statement, build mode d = .ok statement → IsAboutRows statement.sql) :
    IsSettled mode fun u w => change r operation (build u.filterMode) u w := by
  cases accepted : r.declaration.describe with
  | error e =>
    refine .refused (e := .configuration e) fun u w _ => ?_
    rw [change, withStatement_of_error accepted]
    exact ⟨rfl, rfl, w.resolve_store _⟩
  | ok d =>
    cases built : build mode d with
    | error e =>
      refine .refused (e := e) fun u w hmode => ?_
      rw [change, withStatement_of_ok accepted, hmode, built]
      exact ⟨rfl, rfl, w.resolve_store _⟩
    | ok statement =>
      refine .asked ((asks_execute r.declaration d operation statement).congr fun u w hmode => ?_)
        fun c transaction =>
          Store.repeats_execute (about d statement built).isPlain _ transaction
      rw [change, withStatement_of_ok accepted, hmode, built]

/-! ### Texts of changes -/

section

variable {r : RecordType α} {model : α} {p : Predicate} {d : Descriptor} {statement : Statement}

theorem isChange_create
    (built : (Statement.insert d (r.values model)).mapError RepositoryError.statement
      = .ok statement) : IsChange statement.sql :=
  Statement.isChange_insert (mapError_eq_ok.mp built)

theorem isChange_update
    (built : (do
      let filter ← compile (some p) d mode
      (Statement.update d (r.values model) filter).mapError RepositoryError.statement)
        = .ok statement) : IsChange statement.sql := by
  obtain ⟨f, _, built⟩ := bind_eq_ok built
  exact Statement.isChange_update (mapError_eq_ok.mp built)

theorem isChange_delete
    (built : (do return Statement.delete d (← compile (some p) d mode)) = .ok statement) :
    IsChange statement.sql := by
  obtain ⟨f, _, built⟩ := bind_eq_ok built
  cases Except.ok.inj built
  exact Statement.isChange_delete d f

end

end Repository

theorem Call.settled (call : Call) (mode : FilterMode) : UnitOfWork.IsSettled mode call.run := by
  cases call with
  | getAll r p => exact Repository.settled_select r .getAll p
  | get r p => exact (Repository.settled_select r .get p).map List.head?
  | create r model =>
    exact Repository.settled_change r .create
      (fun _ d => (Statement.insert d (r.values model)).mapError .statement)
      fun d statement built => (Repository.isChange_create built).isAboutRows
  | update r model p =>
    exact Repository.settled_change r .update
      (fun mode d => do
        let filter ← Repository.compile (some p) d mode
        (Statement.update d (r.values model) filter).mapError .statement)
      fun d statement built => (Repository.isChange_update built).isAboutRows
  | delete r p =>
    exact Repository.settled_change r .delete
      (fun mode d => do return Statement.delete d (← Repository.compile (some p) d mode))
      fun d statement built => (Repository.isChange_delete built).isAboutRows

end RecordStore
