import RecordStore.Proofs.Session.Ongoing
import RecordStore.Proofs.Store.Private

/-!
Units in memory. Each has a database of its own, and while it is open its requests only ever run
statements there, so the tables keep their layouts and the rows keep distinct keys.
-/
namespace RecordStore

open Sql

namespace Store

/-- The second store is the first one, or what a statement has made of it. -/
def Runs (n : Nat) (s s' : Store) : Prop :=
  s' = s ∨ ∃ sql parameters, s' = (s.run n sql parameters).2

theorem runs_execute (s : Store) (n : Nat) (sql : String) (parameters : List Value) :
    Runs n s (s.execute n sql parameters).2 :=
  .inr ⟨sql, parameters, rfl⟩

theorem runs_query (s : Store) (n : Nat) (sql : String) (parameters : List Value) :
    Runs n s (s.query n sql parameters).2 :=
  .inr ⟨sql, parameters, rfl⟩

end Store

namespace UnitOfWork

variable {β : Type} {u u₀ : UnitOfWork} {w w₀ w₁ : World} {n : Nat}
  {layouts : List TableLayout}

theorem runs_of_execute (opened : u.openConnection? = some n) (operation : Operation)
    (entity : String) (statement : Statement) :
    w.store.Runs n (u.execute w operation entity statement).world.store := by
  rw [execute, opened]
  dsimp only
  rw [observe_store]
  exact w.store.runs_execute n ..

theorem runs_of_query (opened : u.openConnection? = some n) (operation : Operation)
    (entity : String) (ofRow : ResultRow → Except StoreError β) (statement : Statement) :
    w.store.Runs n (u.query w operation entity ofRow statement).world.store := by
  rw [query, opened]
  dsimp only
  rw [observe_store]
  exact w.store.runs_query n ..

theorem runs_of_withStatement {α : Type} (r : RecordType α)
    (build : Descriptor → Except RepositoryError Statement)
    {run : Descriptor → Statement → World → UnitStep β}
    (runs : ∀ d statement (w : World), w.store.Runs n (run d statement w).world.store) :
    w.store.Runs n (Repository.withStatement r u w build run).world.store := by
  have store := w.resolve_store r.declaration
  cases accepted : r.declaration.describe with
  | error e =>
    rw [Repository.withStatement_of_error accepted]
    exact .inl store
  | ok d =>
    rw [Repository.withStatement_of_ok accepted]
    cases build d with
    | error e => exact .inl store
    | ok statement =>
      rw [← store]
      exact runs d statement _

theorem runs_of_call (opened : u.openConnection? = some n) (call : Call) :
    w.store.Runs n (call.run u w).world.store := by
  have reads {α : Type} (r : RecordType α) (operation : Operation) (p : Option Predicate) :
      w.store.Runs n (Repository.select r operation p u w).world.store :=
    runs_of_withStatement r _ fun d statement w' => by
      rw [Repository.finish_store]
      exact runs_of_query opened ..
  have changes {α : Type} (r : RecordType α) (operation : Operation)
      (build : Descriptor → Except RepositoryError Statement) :
      w.store.Runs n (Repository.change r operation build u w).world.store :=
    runs_of_withStatement r _ fun d statement w' => by
      rw [Repository.finish_store]
      exact runs_of_execute opened ..
  cases call with
  | getAll r p => exact reads r .getAll p
  | get r p => exact reads r .get p
  | create r model => exact changes r .create _
  | update r model p => exact changes r .update _
  | delete r p => exact changes r .delete _

/-! ## Requests -/

theorem ongoing_before (request : Request) (still : (request.run u w).unit.state = .ongoing) :
    u.state = .ongoing := by
  rw [remembers_of_ongoing request still] at still
  exact still

theorem ongoing_before_all (requests : List Request)
    (still : (askAll requests u w).2.1.state = .ongoing) : u.state = .ongoing := by
  induction requests generalizing u w with
  | nil => exact still
  | cons request rest ih => exact ongoing_before request (ih still)

/-- While the unit goes on it has its connection, and a request runs at most one statement. -/
theorem runs_of_ongoing (connected : u.connection = some n) (request : Request)
    (still : (request.run u w).unit.state = .ongoing) :
    w.store.Runs n (request.run u w).world.store := by
  have opened := opened_of_ongoing (ongoing_before request still) connected
  cases request with
  | call c => exact runs_of_call opened c
  | execute operation entity statement => exact runs_of_execute opened ..
  | query operation entity ofRow statement => exact runs_of_query opened ..
  | commit =>
    rw [Request.run, commit_ongoing still]
    exact .inl rfl
  | rollback =>
    rw [Request.run, rollback_ongoing still]
    exact .inl rfl
  | dispose =>
    have same := dispose_ongoing (w := w) (u := u) still
    simp only [Request.run, Session.disposing, same]
    exact .inl rfl

/-- The unit is on a connection that has its database to itself. -/
def IsPrivate (layouts : List TableLayout) (u : UnitOfWork) (s : Store) : Prop :=
  ∃ n c, u.connection = some n ∧ s.IsPrivate layouts n c

theorem IsPrivate.ask (own : u.IsPrivate layouts w.store)
    (named : (layouts.map TableLayout.name).Nodup) (request : Request)
    (still : (request.run u w).unit.state = .ongoing) :
    (request.run u w).unit.IsPrivate layouts (request.run u w).world.store := by
  obtain ⟨n, c, connected, own⟩ := own
  have unit := remembers_of_ongoing request still
  rw [Remembers] at unit
  have same : (request.run u w).unit.connection = some n := by rw [unit, connected]
  rcases runs_of_ongoing connected request still with store | ⟨sql, parameters, store⟩
  · rw [store]
    exact ⟨n, c, same, own⟩
  · obtain ⟨c', own⟩ := own.steps named (Store.steps_run own.connected sql parameters)
    rw [store]
    exact ⟨n, c', same, own⟩

theorem IsPrivate.askAll (own : u.IsPrivate layouts w.store)
    (named : (layouts.map TableLayout.name).Nodup) (requests : List Request)
    (still : (askAll requests u w).2.1.state = .ongoing) :
    (askAll requests u w).2.1.IsPrivate layouts (askAll requests u w).2.2.store := by
  induction requests generalizing u w with
  | nil => exact own
  | cons request rest ih =>
    exact ih (own.ask named request (ongoing_before_all rest still)) still

theorem isPrivate_begin {o : StoreOptions} {c : Connection}
    (own : w₀.store.IsPrivate layouts n c) (named : (layouts.map TableLayout.name).Nodup)
    (begun : begin w₀ n o = (.ok u₀, w₁)) :
    u₀.filterMode = o.filterMode ∧ u₀.IsPrivate layouts w₁.store := by
  obtain ⟨c', own⟩ := own.steps named
    (Store.steps_runCommand own.connected (.begin o.transactionMode))
  unfold begin at begun
  split at begun
  · cases begun
  · rename_i s ran
    rw [ran] at own
    cases begun
    exact ⟨rfl, n, c', rfl, own⟩

theorem isPrivate_prepareConnection {before : Option String} {c : Connection}
    (own : w₀.store.IsPrivate layouts n c) (named : (layouts.map TableLayout.name).Nodup)
    (prepared : w₀.prepareConnection n before = (.ok (), w₁)) :
    ∃ c', w₁.store.IsPrivate layouts n c' := by
  unfold World.prepareConnection at prepared
  split at prepared
  · cases prepared
    exact ⟨c, own⟩
  · rename_i sql
    obtain ⟨c', own⟩ := own.steps named (Store.steps_runBatch own.connected sql)
    split at prepared
    · rename_i s ran
      rw [ran] at own
      cases prepared
      exact ⟨c', own⟩
    · cases prepared

/-- A unit that has begun in memory, perhaps after a text that was run before, is on a database
of its own. -/
theorem isPrivate_of_memory {tables : Tables} {o : StoreOptions} {before : Option String}
    (numbered : w₀.store.IsNumbered) (are : tables.AreOf layouts)
    (named : (layouts.map TableLayout.name).Nodup)
    (begun : w₀.beginUnit (.memory tables) o before = (.ok u₀, w₁)) :
    u₀.filterMode = o.filterMode ∧ u₀.IsPrivate layouts w₁.store := by
  rcases w₀.openDatabase_cases (.memory tables) o with
    ⟨e, w, opened, _⟩ | ⟨n, s, w, opened, connected, _, rfl⟩
  · rw [World.beginUnit, opened] at begun
    cases begun
  · have number : w₀.store.nextConnection = n := congrArg Prod.fst (Except.ok.inj connected)
    have store : (w₀.store.openPrivate tables o.foreignKeys).2 = w.store :=
      congrArg Prod.snd (Except.ok.inj connected)
    have own := Store.isPrivate_openPrivate numbered are o.foreignKeys
    rw [number, store] at own
    rw [World.beginUnit, opened] at begun
    dsimp only at begun
    split at begun
    · cases begun
    · rename_i w' prepared
      obtain ⟨c', own⟩ := isPrivate_prepareConnection own named prepared
      rcases ran : begin w' n o with ⟨_ | u, w''⟩
      · rw [ran] at begun
        cases begun
      · rw [ran] at begun
        cases begun
        exact isPrivate_begin own named ran

/-- The unit is on such a connection, and inside a transaction there. -/
def IsInside (layouts : List TableLayout) (u : UnitOfWork) (s : Store) : Prop :=
  ∃ n c, u.connection = some n ∧ s.IsPrivate layouts n c ∧ c.inTransaction = true

/-- The medium of a private database takes everything, so the unit stays inside its transaction
while it is open. -/
theorem IsInside.ask (here : u.IsInside layouts w.store)
    (named : (layouts.map TableLayout.name).Nodup) {request : Request}
    (reads : request.ReadsAs Command.KeepsTransaction)
    (still : (request.run u w).unit.state = .ongoing) :
    (request.run u w).unit.IsInside layouts (request.run u w).world.store := by
  obtain ⟨n, c, connected, own, inside⟩ := here
  have opened := opened_of_ongoing (ongoing_before request still) connected
  have goes_on := goesOn_of_ongoing opened own.connected inside reads still
  obtain ⟨m, d, connected', own'⟩ :=
    IsPrivate.ask (u := u) ⟨n, c, connected, own⟩ named request still
  have unit := remembers_of_ongoing request still
  rw [Remembers] at unit
  have same : m = n := by
    rw [unit] at connected'
    exact Option.some.inj (connected'.symm.trans connected)
  subst same
  refine ⟨m, d, connected', own', ?_⟩
  rcases goes_on.moved with kept | ⟨c', moved, _, goes_on⟩
  · rw [kept] at own'
    cases Option.some.inj (own.connected.symm.trans own'.connected)
    exact inside
  · rw [moved] at own'
    have conn := Store.connection?_putConnection_self own.connected c'
    cases Option.some.inj (conn.symm.trans own'.connected)
    exact goes_on.resolve_right fun failed => failed.1 own.reliable

theorem IsInside.askAll (here : u.IsInside layouts w.store)
    (named : (layouts.map TableLayout.name).Nodup) {requests : List Request}
    (reads : ∀ request ∈ requests, request.ReadsAs Command.KeepsTransaction)
    (still : (askAll requests u w).2.1.state = .ongoing) :
    (askAll requests u w).2.1.IsInside layouts (askAll requests u w).2.2.store := by
  induction requests generalizing u w with
  | nil => exact here
  | cons request rest ih =>
    have first := here.ask named (reads request (List.mem_cons_self ..))
      (ongoing_before_all rest still)
    exact ih first (fun r mem => reads r (List.mem_cons_of_mem _ mem)) still

end UnitOfWork

end RecordStore
