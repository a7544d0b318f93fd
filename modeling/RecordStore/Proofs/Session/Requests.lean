import RecordStore.Proofs.Session.Calls
import RecordStore.Proofs.Session.Endings
import RecordStore.Session

/-!
Requests to a unit, among them statements of the caller's own. A unit remembers the first
request that failed in the store, and its commit reports that one, whatever has happened to the
world in the meantime.
-/
namespace RecordStore

open Sql

inductive Request : Type 1
  | call (call : Call)
  | execute (operation : Operation) (entity : String) (statement : Statement)
  | query {α : Type} (operation : Operation) (entity : String)
      (ofRow : ResultRow → Except StoreError α) (statement : Statement)
  | commit
  | rollback
  | dispose

namespace Request

def Answer : Request → Type
  | call c => c.Answer
  | execute _ _ _ => Nat
  | @query α _ _ _ _ => List α
  | commit | rollback | dispose => Unit

def run : (request : Request) → UnitOfWork → World → UnitStep request.Answer
  | call c, u, w => c.run u w
  | execute operation entity statement, u, w => u.execute w operation entity statement
  | query operation entity ofRow statement, u, w => u.query w operation entity ofRow statement
  | commit, u, w => u.commit w
  | rollback, u, w => u.rollback w
  | dispose, u, w => Session.disposing u w

end Request

structure Asked : Type 1 where
  request : Request
  answer : Except RepositoryError request.Answer

/-- The requests one after the other, with nobody else at work. -/
def askAll : List Request → UnitOfWork → World → List Asked × UnitOfWork × World
  | [], u, w => ([], u, w)
  | request :: rest, u, w =>
    let s := request.run u w
    let (asked, u, w) := askAll rest s.unit s.world
    (⟨request, s.answer⟩ :: asked, u, w)

namespace UnitOfWork

/-- A unit after the requests that were made of it. Before each of them others may have done
anything to the world. -/
inductive Lives (u₀ : UnitOfWork) : List Asked → UnitOfWork → Prop
  | begun : Lives u₀ [] u₀
  | next {asked : List Asked} {u : UnitOfWork} (request : Request) (w : World) :
      Lives u₀ asked u →
      Lives u₀ (asked ++ [⟨request, (request.run u w).answer⟩]) (request.run u w).unit

theorem Lives.askAll {u₀ u : UnitOfWork} {asked : List Asked} (lives : u₀.Lives asked u)
    (requests : List Request) (w : World) :
    u₀.Lives (asked ++ (askAll requests u w).1) (askAll requests u w).2.1 := by
  induction requests generalizing asked u w with
  | nil =>
    rw [RecordStore.askAll, List.append_nil]
    exact lives
  | cons request rest ih =>
    have later := ih (lives.next request w) (request.run u w).world
    rw [List.append_assoc] at later
    exact later

end UnitOfWork

/-! ## What a unit remembers -/

def RepositoryError.failure? : RepositoryError → Option FailedStatement
  | .execution f => some f
  | _ => none

def failureOf? {β : Type} : Except RepositoryError β → Option FailedStatement
  | .ok _ => none
  | .error e => e.failure?

def Asked.failure? (a : Asked) : Option FailedStatement := failureOf? a.answer

theorem failureOf?_eq_some {β : Type} {answer : Except RepositoryError β} {f : FailedStatement} :
    failureOf? answer = some f ↔ answer = .error (.execution f) := by
  cases answer with
  | ok b => simp [failureOf?]
  | error e => cases e <;> simp [failureOf?, RepositoryError.failure?]

theorem failureOf?_map {β γ : Type} (answer : Except RepositoryError β) (f : β → γ) :
    failureOf? (answer.map f) = failureOf? answer := by
  cases answer <;> rfl

/-- The failure that a run of requests met first. -/
def IsFirstFailure (asked : List Asked) (f : FailedStatement) : Prop :=
  ∃ before a after, asked = before ++ a :: after ∧ a.answer = .error (.execution f) ∧
    ∀ b ∈ before, ∀ g, b.answer ≠ .error (.execution g)

namespace UnitOfWork

variable {β γ : Type} {u : UnitOfWork} {w : World}

/-- A step that changes nothing in the unit but what it remembers. -/
def Remembers (u : UnitOfWork) (s : UnitStep β) : Prop :=
  s.unit = { u with failure := u.failure.or (failureOf? s.answer) }

theorem remembers_error {e : RepositoryError} (other : e.failure? = none) (w : World) :
    Remembers u (⟨.error e, u, w⟩ : UnitStep β) := by
  simp [Remembers, failureOf?, other]

theorem remembers_observe (operation : Operation) (entity : String)
    (result : Except StoreError β) : Remembers u (u.observe w operation entity result) := by
  cases result with
  | ok b => simp [Remembers, observe, failureOf?]
  | error e => rfl

theorem remembers_execute (operation : Operation) (entity : String) (statement : Statement) :
    Remembers u (u.execute w operation entity statement) := by
  unfold execute
  split
  · exact remembers_error rfl w
  · exact remembers_observe operation entity _

theorem remembers_query (operation : Operation) (entity : String)
    (ofRow : ResultRow → Except StoreError β) (statement : Statement) :
    Remembers u (u.query w operation entity ofRow statement) := by
  unfold query
  split
  · exact remembers_error rfl w
  · exact remembers_observe operation entity _

theorem Remembers.finish {s : UnitStep β} (remembers : Remembers u s) (operation : Operation)
    (d : Descriptor) (rows : β → Nat) : Remembers u (Repository.finish operation d rows s) := by
  rw [Remembers, Repository.finish_unit, Repository.finish_answer]
  exact remembers

theorem Remembers.map {s : UnitStep β} (remembers : Remembers u s) (f : β → γ) :
    Remembers u (⟨s.answer.map f, s.unit, s.world⟩ : UnitStep γ) := by
  rw [Remembers, failureOf?_map]
  exact remembers

theorem remembers_withStatement {α : Type} (r : RecordType α)
    {build : Descriptor → Except RepositoryError Statement}
    {run : Descriptor → Statement → World → UnitStep β}
    (built : ∀ d, FailsOnly (·.failure? = none) (build d))
    (ran : ∀ d statement w, Remembers u (run d statement w)) :
    Remembers u (Repository.withStatement r u w build run) := by
  cases accepted : r.declaration.describe with
  | error e =>
    rw [Repository.withStatement_of_error accepted]
    exact remembers_error rfl _
  | ok d =>
    rw [Repository.withStatement_of_ok accepted]
    cases answer : build d with
    | error e => exact remembers_error ((built d).of_error e answer) _
    | ok statement => exact ran d statement _

end UnitOfWork

namespace Repository

open UnitOfWork

variable {α : Type} {u : UnitOfWork} {w : World}

theorem unfailed_compile (p : Option Predicate) (d : Descriptor) (mode : FilterMode) :
    FailsOnly (·.failure? = none) (compile p d mode) := by
  apply FailsOnly.mapError
  exact fun _ => rfl

theorem unfailed_arity (x : Except ArityError Statement) :
    FailsOnly (·.failure? = none) (x.mapError RepositoryError.statement) := by
  apply FailsOnly.mapError
  exact fun _ => rfl

theorem remembers_select (r : RecordType α) (operation : Operation) (p : Option Predicate) :
    Remembers u (select r operation p u w) :=
  remembers_withStatement r (fun d => (unfailed_compile p d _).bind fun _ => .ok _)
    fun d statement _ => (remembers_query operation d.record r.ofRow statement).finish ..

theorem remembers_change (r : RecordType α) (operation : Operation)
    {build : Descriptor → Except RepositoryError Statement}
    (built : ∀ d, FailsOnly (·.failure? = none) (build d)) :
    Remembers u (change r operation build u w) :=
  remembers_withStatement r built
    fun d statement _ => (remembers_execute operation d.record statement).finish ..

end Repository

theorem Call.remembers (call : Call) (u : UnitOfWork) (w : World) :
    u.Remembers (call.run u w) := by
  cases call with
  | getAll r p => exact Repository.remembers_select r .getAll p
  | get r p => exact (Repository.remembers_select r .get p).map List.head?
  | create r model =>
    exact Repository.remembers_change r .create fun _ => Repository.unfailed_arity _
  | update r model p =>
    exact Repository.remembers_change r .update fun d =>
      (Repository.unfailed_compile _ d _).bind fun _ => Repository.unfailed_arity _
  | delete r p =>
    exact Repository.remembers_change r .delete fun d =>
      (Repository.unfailed_compile _ d _).bind fun _ => .ok _

namespace UnitOfWork

variable {u u₀ : UnitOfWork} {w : World} {asked : List Asked}

theorem commit_ongoing (still : (u.commit w).unit.state = .ongoing) :
    u.commit w = u.refuse w "commit" := by
  unfold commit at still ⊢
  split at still
  · rfl
  · cases still
  · split at still <;> cases still

theorem rollback_ongoing (still : (u.rollback w).unit.state = .ongoing) :
    u.rollback w = u.refuse w "rollback" := by
  unfold rollback at still ⊢
  split at still
  · rfl
  · dsimp only at still
    split at still <;> cases still

theorem dispose_ongoing (still : (u.dispose w).1.state = .ongoing) : u.dispose w = (u, w) := by
  unfold dispose at still ⊢
  split at still
  · rfl
  · cases still

/-- A unit that goes on after a request is the unit that it was, but for what it remembers. -/
theorem remembers_of_ongoing (request : Request)
    (still : (request.run u w).unit.state = .ongoing) : u.Remembers (request.run u w) := by
  cases request with
  | call c => exact c.remembers u w
  | execute operation entity statement => exact remembers_execute operation entity statement
  | query operation entity ofRow statement =>
    exact remembers_query operation entity ofRow statement
  | commit =>
    rw [Request.run, commit_ongoing still]
    exact remembers_error rfl w
  | rollback =>
    rw [Request.run, rollback_ongoing still]
    exact remembers_error rfl w
  | dispose =>
    have same := dispose_ongoing (w := w) (u := u) still
    simp [Request.run, Session.disposing, same, Remembers, failureOf?]

/-- As long as a unit is open it remembers the first failure since it began, and nothing else
of it has changed. -/
theorem Lives.unit_eq (lives : u₀.Lives asked u) (fresh : u₀.failure = none)
    (still : u.state = .ongoing) :
    u = { u₀ with failure := asked.findSome? Asked.failure? } := by
  induction lives with
  | begun => simp [← fresh]
  | @next asked u request w lives ih =>
    have remembers := remembers_of_ongoing request still
    rw [Remembers] at remembers
    have before : u.state = .ongoing := by
      rw [remembers] at still
      exact still
    rw [remembers, ih before, List.findSome?_append]
    simp [Asked.failure?]

theorem failure?_eq_none {a : Asked} :
    a.failure? = none ↔ ∀ f, a.answer ≠ .error (.execution f) := by
  simp only [Asked.failure?, ne_eq, ← failureOf?_eq_some]
  cases failureOf? a.answer <;> simp

theorem noFailure_iff : asked.findSome? Asked.failure? = none ↔
    ∀ a ∈ asked, ∀ f, a.answer ≠ .error (.execution f) := by
  simp only [List.findSome?_eq_none_iff, failure?_eq_none]

theorem isFirstFailure_iff {f : FailedStatement} :
    asked.findSome? Asked.failure? = some f ↔ IsFirstFailure asked f := by
  rw [List.findSome?_eq_some_iff]
  constructor
  · rintro ⟨before, a, after, shape, first, none⟩
    exact ⟨before, a, after, shape, failureOf?_eq_some.mp first,
      fun b mem => failure?_eq_none.mp (none b mem)⟩
  · rintro ⟨before, a, after, shape, first, none⟩
    exact ⟨before, a, after, shape, failureOf?_eq_some.mpr first,
      fun b mem => failure?_eq_none.mpr (none b mem)⟩

end UnitOfWork

/-! ## Commits -/

namespace Store

variable {s s' : Store} {n : Nat}

theorem inTransaction_of_commit (ran : s.runCommand n .commit = (.ok (), s')) :
    s'.inTransaction n = false := by
  cases conn : s.connection? n with
  | none => simp [runCommand, conn] at ran
  | some c =>
    cases transaction : c.inTransaction with
    | false =>
      simp only [runCommand, conn, step, commit, transaction] at ran
      cases ran
    | true =>
      cases may : s.mayKeep n c with
      | true =>
        rw [runCommand_commit_ok conn transaction may] at ran
        rw [← (Prod.mk.inj ran).2, inTransaction, connection?_keep_self conn]
        rfl
      | false =>
        obtain ⟨e, failed | ⟨l, failed⟩ | failed⟩ := runCommand_commit_error conn transaction may
        · rw [failed] at ran
          cases ran
        · rw [failed] at ran
          cases ran
        · rw [failed] at ran
          cases ran

end Store

namespace UnitOfWork

variable {u u₀ : UnitOfWork} {w w₀ w₁ : World} {n : Nat}

theorem inTransaction_rollbackQuietly (w : World) (n : Nat) :
    (rollbackQuietly w n).store.inTransaction n = false := by
  unfold rollbackQuietly
  split
  · rename_i inside
    cases conn : w.store.connection? n with
    | none => simp [Store.inTransaction, conn] at inside
    | some c =>
      have transaction : c.inTransaction = true := by
        simpa [Store.inTransaction, conn] using inside
      simp only [Store.runCommand_rollback conn transaction, Store.inTransaction,
        Store.connection?_putConnection_self conn]
      rfl
  · rename_i outside
    exact Bool.eq_false_iff.mpr outside

theorem commit_failed {f : FailedStatement} (opened : u.openConnection? = some n)
    (failed : u.failure = some f) :
    (u.commit w).answer = .error (.commitAborted f) ∧
      (u.commit w).unit.state = .rolledBack ∧
      (u.commit w).world.store.inTransaction n = false := by
  rw [commit, opened, failed]
  exact ⟨rfl, rfl, inTransaction_rollbackQuietly w n⟩

/-- Without a failure the commit is up to the store. -/
theorem commit_unfailed (opened : u.openConnection? = some n) (fine : u.failure = none) :
    (u.commit w).world.store.inTransaction n = false ∧
      ((w.store.runCommand n .commit = (.ok (), (u.commit w).world.store) ∧
          (u.commit w).answer = .ok () ∧ (u.commit w).unit.state = .committed) ∨
        ∃ e s, w.store.runCommand n .commit = (.error e, s) ∧
          (u.commit w).answer = .error (.commit (.store e)) ∧
          (u.commit w).unit.state = .rolledBack ∧
          (u.commit w).world.store = (rollbackQuietly { w with store := s } n).store) := by
  rw [commit, opened, fine]
  dsimp only
  rcases ran : w.store.runCommand n .commit with ⟨_ | _, s⟩
  · exact ⟨inTransaction_rollbackQuietly { w with store := s } n,
      .inr ⟨_, s, rfl, rfl, rfl, rfl⟩⟩
  · exact ⟨Store.inTransaction_of_commit ran, .inl ⟨rfl, rfl, rfl⟩⟩

/-- A commit is aborted exactly if a request has failed in the store since the unit began, and
it reports the first one that did. Else it is up to the store: what a commit leaves there is
what COMMIT leaves. Either way the unit is over and its transaction has ended. -/
theorem commit_after_requests {o : StoreOptions} {asked : List Asked}
    (begun : begin w₀ n o = (.ok u₀, w₁)) (lives : u₀.Lives asked u)
    (still : u.state = .ongoing) (w : World) :
    ((∃ f, (u.commit w).answer = .error (.commitAborted f)) ↔
        ∃ a ∈ asked, ∃ f, a.answer = .error (.execution f)) ∧
      (∀ f, (u.commit w).answer = .error (.commitAborted f) →
        IsFirstFailure asked f ∧ (u.commit w).unit.state = .rolledBack) ∧
      ((∀ a ∈ asked, ∀ f, a.answer ≠ .error (.execution f)) →
        (w.store.runCommand n .commit = (.ok (), (u.commit w).world.store) ∧
            (u.commit w).answer = .ok () ∧ (u.commit w).unit.state = .committed) ∨
          ∃ e s, w.store.runCommand n .commit = (.error e, s) ∧
            (u.commit w).answer = .error (.commit (.store e)) ∧
            (u.commit w).unit.state = .rolledBack ∧
            (u.commit w).world.store = (rollbackQuietly { w with store := s } n).store) ∧
      (u.commit w).world.store.inTransaction n = false := by
  have fresh : u₀ = ⟨some n, .ongoing, none, o.filterMode⟩ := by
    unfold begin at begun
    split at begun
    · cases begun
    · exact (Except.ok.inj (Prod.mk.inj begun).1).symm
  have unit := lives.unit_eq (by rw [fresh]) still
  have opened : u.openConnection? = some n := opened_of_ongoing still (by rw [unit, fresh])
  have remembered : u.failure = asked.findSome? Asked.failure? := by rw [unit]
  cases first : asked.findSome? Asked.failure? with
  | some f =>
    obtain ⟨answer, state, ended⟩ := commit_failed (w := w) opened (remembered.trans first)
    obtain ⟨before, a, after, shape, failed, _⟩ := isFirstFailure_iff.mp first
    have mem : a ∈ asked := by simp [shape]
    refine ⟨⟨fun _ => ⟨a, mem, f, failed⟩, fun _ => ⟨f, answer⟩⟩, fun g aborted => ?_,
      fun fine => absurd failed (fine a mem f), ended⟩
    rw [answer] at aborted
    cases aborted
    exact ⟨isFirstFailure_iff.mp first, state⟩
  | none =>
    have fine := noFailure_iff.mp first
    obtain ⟨ended, up_to_store⟩ := commit_unfailed (w := w) opened (remembered.trans first)
    have spared : ∀ f, (u.commit w).answer ≠ .error (.commitAborted f) := by
      rcases up_to_store with ⟨_, answer, _⟩ | ⟨_, _, _, answer, _⟩
      · rw [answer]
        nofun
      · rw [answer]
        nofun
    exact ⟨⟨fun ⟨f, aborted⟩ => absurd aborted (spared f),
      fun ⟨a, mem, f, failed⟩ => absurd failed (fine a mem f)⟩,
      fun f aborted => absurd aborted (spared f), fun _ => up_to_store, ended⟩

def privateWorld : World := .ofStore ((Store.empty []).openPrivate emptyTables true).2

/-- A row without a date is not read, and then a text is no statement. -/
def undecodable : List Request :=
  [.execute .create "T" ⟨"INSERT INTO ENTRIES (ID, DESCRIPTION, DATE) VALUES (?, ?, ?)",
      [.integer 1, .null, .text "soon"]⟩,
    .call (.getAll entryRecord none),
    .execute .delete "T" ⟨"SELEC", []⟩,
    .execute .create "T" ⟨"DELETE FROM ENTRIES", []⟩]

theorem commit_after_requests_undecodable :
    ∃ u₀ w₁, begin privateWorld 0 .default = (.ok u₀, w₁) ∧
      (askAll undecodable u₀ w₁).2.1.state = .ongoing ∧
      ∃ f, f.operation = .getAll ∧ f.entity = "EntryRecord" ∧
        f.error = .conversion 2 .text Date.ReadError.year.message ∧
        IsFirstFailure (askAll undecodable u₀ w₁).1 f ∧
        ((askAll undecodable u₀ w₁).2.1.commit (askAll undecodable u₀ w₁).2.2).answer
          = .error (.commitAborted f) := by
  obtain ⟨u₀, w₁, begun, still, f, operation, entity, error, first⟩ :
      ∃ u₀ w₁, begin privateWorld 0 .default = (.ok u₀, w₁) ∧
        (askAll undecodable u₀ w₁).2.1.state = .ongoing ∧
        ∃ f, f.operation = .getAll ∧ f.entity = "EntryRecord" ∧
          f.error = .conversion 2 .text Date.ReadError.year.message ∧
          (askAll undecodable u₀ w₁).1.findSome? Asked.failure? = some f :=
    ⟨_, _, rfl, by decide +kernel, ⟨.getAll, "EntryRecord", .conversion 2 .text _⟩, rfl, rfl, rfl,
      by decide +kernel⟩
  have lives := (Lives.begun : u₀.Lives [] u₀).askAll undecodable w₁
  obtain ⟨aborts, reports, _⟩ :=
    commit_after_requests begun lives still (askAll undecodable u₀ w₁).2.2
  rw [List.nil_append] at aborts reports
  obtain ⟨before, a, after, shape, failed, _⟩ := isFirstFailure_iff.mp first
  obtain ⟨g, aborted⟩ := aborts.mpr ⟨a, by simp [shape], f, failed⟩
  have same : some g = some f :=
    (isFirstFailure_iff.mpr (reports g aborted).1).symm.trans first
  cases same
  exact ⟨u₀, w₁, begun, still, f, operation, entity, error, isFirstFailure_iff.mp first, aborted⟩

end UnitOfWork

end RecordStore
