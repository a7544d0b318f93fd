import RecordStore.Proofs.Opening
import RecordStore.Proofs.Session.Persistence
import RecordStore.Proofs.Session.Replies

/-!
The life of a unit, from its begin until it is dropped. The unit, its connection and the
transaction there stay in step, unless the medium ends the transaction of an open unit. Either way
the transaction and the connection are given up once each.
-/
namespace RecordStore

open UnitOfWork (Gives)

/-- What repositories and units offer, apart from statements of the caller's own. -/
def Request.IsTyped : Request → Prop
  | execute _ _ _ | query _ _ _ _ => False
  | _ => True

/-- A request to a unit, with the unit and the world that it met. -/
structure Turn : Type 1 where
  request : Request
  unit : UnitOfWork
  world : World

namespace Turn

def step (t : Turn) : UnitStep t.request.Answer := t.request.run t.unit t.world

/-- A commit that succeeds. -/
def commits : Turn → Bool
  | ⟨.commit, u, w⟩ => (u.commit w).answer.isOk
  | _ => false

/-- The transaction of a connection ends, and not by a commit. -/
def rollsBack (n : Nat) (t : Turn) : Bool :=
  t.world.store.inTransaction n && !t.step.world.store.inTransaction n && !t.commits

def releases (n : Nat) (t : Turn) : Bool :=
  (t.world.store.connection? n).isSome && (t.step.world.store.connection? n).isNone

/-- A commit keeps what its connection has written. Nothing else changes what is kept, as long as
an open unit is inside its transaction. -/
structure TakesEffect (n : Nat) (t : Turn) : Prop where
  kept : t.commits = true → ∃ c, t.world.store.connection? n = some c ∧
    t.step.world.store = t.world.store.keep n c
  unchanged : t.commits = false →
    (t.unit.state = .ongoing → t.world.store.inTransaction n = true) →
      ∀ file, t.step.world.store.committed file = t.world.store.committed file

end Turn

/-- A unit after the requests that were made of it. Between them others may change all of the
store but the connection of the unit, and also what its medium takes. -/
inductive Course (n : Nat) (u₀ : UnitOfWork) (w₀ : World) :
    List Turn → UnitOfWork → World → Prop
  | begun : Course n u₀ w₀ [] u₀ w₀
  | next {turns : List Turn} {u : UnitOfWork} {w : World} (request : Request) :
      Course n u₀ w₀ turns u w → request.IsTyped →
      Course n u₀ w₀ (turns ++ [⟨request, u, w⟩]) (request.run u w).unit (request.run u w).world
  | others {turns : List Turn} {u : UnitOfWork} {w : World} (w' : World) (m : Medium) :
      Course n u₀ w₀ turns u w →
      w'.store.connection? n = (w.store.connection? n).map (fun c => { c with medium := m }) →
      Course n u₀ w₀ turns u w'

/-- A unit is never open again, and once it has ended it can only be disposed of. -/
structure UnitState.Becomes (s s' : UnitState) : Prop where
  ongoing : s' = .ongoing → s = .ongoing
  committed : s = .committed → s' = .committed ∨ s' = .disposed
  rolledBack : s = .rolledBack → s' = .rolledBack ∨ s' = .disposed
  disposed : s = .disposed → s' = .disposed

/-- What holds of a unit begun on a connection, whatever has been asked of it. The last turn is
the one that drops it. -/
structure Lifecycle (n : Nat) (turns : List Turn) (u : UnitOfWork) (w : World) : Prop where
  connection : u.connection = if u.state = .disposed then none else some n
  connected : (w.store.connection? n).isSome = true ↔ u.state ≠ .disposed
  inside : w.store.inTransaction n = true → u.state = .ongoing
  lost : u.state = .ongoing → w.store.inTransaction n = false →
    ∃ t ∈ turns, FailsByMedium t.step.answer
  states : (turns.map (·.unit.state) ++ [u.state]).Pairwise UnitState.Becomes
  commit_refused : u.state ≠ .ongoing → u.commit w = u.refuse w "commit"
  rollback_refused : u.state ≠ .ongoing → u.rollback w = u.refuse w "rollback"
  execute_refused : u.state ≠ .ongoing → ∀ operation entity statement,
    u.execute w operation entity statement = u.refuse w operation.name
  query_refused : u.state ≠ .ongoing → ∀ {α : Type} operation entity statement
    (ofRow : ResultRow → Except StoreError α),
    u.query w operation entity ofRow statement = u.refuse w operation.name
  call_refused : u.state ≠ .ongoing → ∀ (call : Call) (d : Descriptor) (statement : Statement),
    call.prepare u.filterMode = .ok (d, statement) →
      Gives (call.run u w) (.error (.notOpen u.state call.operation.name)) u w.store
  ended_once : (turns ++ [Turn.mk .dispose u w]).countP Turn.commits
    + (turns ++ [Turn.mk .dispose u w]).countP (Turn.rollsBack n) = 1
  released_once : (turns ++ [Turn.mk .dispose u w]).countP (Turn.releases n) = 1
  effects : ∀ t ∈ turns ++ [Turn.mk .dispose u w], t.TakesEffect n

namespace UnitState.Becomes

variable {s s' s'' : UnitState}

theorem refl (s : UnitState) : s.Becomes s := ⟨id, .inl, .inl, id⟩

theorem of_ongoing (s : UnitState) : Becomes .ongoing s := ⟨fun _ => rfl, nofun, nofun, nofun⟩

theorem to_disposed (s : UnitState) : s.Becomes .disposed :=
  ⟨nofun, fun _ => .inr rfl, fun _ => .inr rfl, fun _ => rfl⟩

theorem trans (first : s.Becomes s') (second : s'.Becomes s'') : s.Becomes s'' where
  ongoing h := first.ongoing (second.ongoing h)
  committed h := (first.committed h).elim second.committed fun h => .inr (second.disposed h)
  rolledBack h := (first.rolledBack h).elim second.rolledBack fun h => .inr (second.disposed h)
  disposed h := second.disposed (first.disposed h)

end UnitState.Becomes

theorem Store.inTransaction_of_closed {s : Store} {n : Nat} (closed : s.connection? n = none) :
    s.inTransaction n = false := by
  rw [inTransaction, closed]

namespace Turn

variable {n : Nat} {t : Turn} {c c' : Connection}

/-- How many transactions end with a turn. -/
def ends (n : Nat) (t : Turn) : Nat := t.commits.toNat + (t.rollsBack n).toNat

theorem commits_of_error {e : RepositoryError} (failed : t.step.answer = .error e) :
    t.commits = false := by
  obtain ⟨request, u, w⟩ := t
  cases request with
  | commit =>
    have answer : (u.commit w).answer = .error e := failed
    rw [commits, answer]
    rfl
  | call call | execute operation entity statement | query operation entity ofRow statement
    | rollback | dispose => rfl

theorem TakesEffect.of_other {s : Store} (other : t.commits = false)
    (store : t.step.world.store = s)
    (same : ∀ file, s.committed file = t.world.store.committed file) : t.TakesEffect n where
  kept committed := absurd (other.symm.trans committed) nofun
  unchanged _ _ := store ▸ same

/-- A transaction that is over at the end of a turn has been committed or rolled back. -/
theorem ends_of_ended (before : t.world.store.inTransaction n = true)
    (after : t.step.world.store.inTransaction n = false) : t.ends n = 1 := by
  rw [ends, rollsBack, before, after]
  cases t.commits <;> rfl

theorem ends_of_outside (other : t.commits = false)
    (before : t.world.store.inTransaction n = false) : t.ends n = 0 := by
  rw [ends, rollsBack, before, other]
  rfl

theorem ends_of_other (other : t.commits = false)
    (same : t.world.store.inTransaction n = true → t.step.world.store.inTransaction n = true) :
    t.ends n = 0 := by
  rw [ends, rollsBack, other]
  cases before : t.world.store.inTransaction n with
  | false => rfl
  | true =>
    rw [same before]
    rfl

theorem releases_of_connected (after : t.step.world.store.connection? n = some c) :
    t.releases n = false := by
  simp [releases, after]

theorem releases_of_same
    (same : t.step.world.store.connection? n = t.world.store.connection? n) :
    t.releases n = false := by
  rw [releases, same]
  cases t.world.store.connection? n <;> rfl

theorem releases_of_closed (before : t.world.store.connection? n = some c)
    (after : t.step.world.store.connection? n = none) : t.releases n = true := by
  simp [releases, before, after]

end Turn

/-! ## Steps -/

/-- How a unit stands with its connection, and how many transactions and connections it has
given up. A unit that has lost its transaction to the medium remembers a failure. -/
inductive Stands (n : Nat) (u : UnitOfWork) (s : Store) : Nat → Nat → Prop
  | inside {c : Connection} : u.state = .ongoing → u.connection = some n →
      s.connection? n = some c → c.inTransaction = true → Stands n u s 0 0
  | lost {c : Connection} : u.state = .ongoing → u.failure ≠ none → u.connection = some n →
      s.connection? n = some c → c.inTransaction = false → Stands n u s 1 0
  | outside {c : Connection} : u.state ≠ .ongoing → u.state ≠ .disposed →
      u.connection = some n → s.connection? n = some c → c.inTransaction = false →
      Stands n u s 1 0
  | gone : u.state = .disposed → u.connection = none → s.connection? n = none →
      Stands n u s 1 1

namespace Stands

variable {n ended released : Nat} {u : UnitOfWork} {w : World} {c : Connection}

/-- What others do to the medium does not change how the unit stands. -/
theorem onMedium {s s' : Store} {m : Medium} (stands : Stands n u s ended released)
    (same : s'.connection? n = (s.connection? n).map (fun c => { c with medium := m })) :
    Stands n u s' ended released := by
  cases stands with
  | inside state connected conn transaction =>
    rw [conn] at same
    exact .inside state connected same transaction
  | lost state remembers connected conn outside =>
    rw [conn] at same
    exact .lost state remembers connected same outside
  | outside ended undisposed connected conn transaction =>
    rw [conn] at same
    exact .outside ended undisposed connected same transaction
  | gone state disconnected closed =>
    rw [closed] at same
    exact .gone state disconnected same

theorem disposed (stands : Stands n u w.store ended released) :
    (u.dispose w).1.state = .disposed := by
  cases stands with
  | inside _ connected | lost _ _ connected | outside _ _ connected =>
    rw [UnitOfWork.dispose, connected]
  | gone state disconnected =>
    rw [UnitOfWork.dispose_disconnected disconnected]
    exact state

theorem once_of_disposed {s : Store} (stands : Stands n u s ended released)
    (disposed : u.state = .disposed) : ended = 1 ∧ released = 1 := by
  cases stands with
  | inside state | lost state => cases disposed.symm.trans state
  | outside _ undisposed => exact absurd disposed undisposed
  | gone => exact ⟨rfl, rfl⟩

theorem agrees {s : Store} (stands : Stands n u s ended released) :
    (u.connection = if u.state = .disposed then none else some n) ∧
      ((s.connection? n).isSome = true ↔ u.state ≠ .disposed) ∧
      (s.inTransaction n = true → u.state = .ongoing) := by
  cases stands with
  | inside state connected conn transaction =>
    simp [state, connected, conn, Store.inTransaction_eq conn, transaction]
  | lost state _ connected conn outside =>
    simp [state, connected, conn, Store.inTransaction_eq conn, outside]
  | outside past undisposed connected conn transaction =>
    simp [undisposed, connected, conn, Store.inTransaction_eq conn, transaction]
  | gone state disconnected closed =>
    simp [state, disconnected, closed, Store.inTransaction_of_closed closed]

end Stands

/-- What a turn of a unit does that has given up so many transactions and connections. -/
structure Advances (n ended released : Nat) (t : Turn) : Prop where
  stands : Stands n t.step.unit t.step.world.store (ended + t.ends n)
    (released + (t.releases n).toNat)
  effect : t.TakesEffect n
  stays : t.step.unit.state = .ongoing → t.world.store.inTransaction n = true →
    t.step.world.store.inTransaction n = true ∨ FailsByMedium t.step.answer

namespace Advances

variable {n ended released : Nat} {u : UnitOfWork} {w : World} {c : Connection} {t : Turn}
  {s : Store}

/-- The transaction goes on. -/
theorem goes_on (other : t.commits = false) (state : t.step.unit.state = .ongoing)
    (connected : t.step.unit.connection = some n) (store : t.step.world.store = s)
    (conn : s.connection? n = some c) (transaction : c.inTransaction = true)
    (same : ∀ file, s.committed file = t.world.store.committed file) : Advances n 0 0 t := by
  subst store
  have inside := (Store.inTransaction_eq conn).trans transaction
  refine ⟨?_, .of_other other rfl same, fun _ _ => .inl inside⟩
  rw [Turn.ends_of_other other fun _ => inside, Turn.releases_of_connected conn]
  exact .inside state connected conn transaction

/-- The medium ends the transaction, and the unit goes on without it. -/
theorem loses (before : t.world.store.inTransaction n = true) (other : t.commits = false)
    (state : t.step.unit.state = .ongoing) (remembers : t.step.unit.failure ≠ none)
    (connected : t.step.unit.connection = some n) (store : t.step.world.store = s)
    (conn : s.connection? n = some c) (outside : c.inTransaction = false)
    (same : ∀ file, s.committed file = t.world.store.committed file)
    (fails : FailsByMedium t.step.answer) : Advances n 0 0 t := by
  subst store
  have after := (Store.inTransaction_eq conn).trans outside
  refine ⟨?_, .of_other other rfl same, fun _ _ => .inr fails⟩
  rw [Turn.ends_of_ended before after, Turn.releases_of_connected conn]
  exact .lost state remembers connected conn outside

/-- Without a transaction an open unit goes on, or it ends with nothing to give up. -/
theorem goes_without (before : t.world.store.inTransaction n = false)
    (ongoing : t.unit.state = .ongoing) (other : t.commits = false)
    (remembers : t.step.unit.state = .ongoing → t.step.unit.failure ≠ none)
    (undisposed : t.step.unit.state ≠ .disposed)
    (connected : t.step.unit.connection = some n)
    (conn : t.step.world.store.connection? n = some c) (outside : c.inTransaction = false) :
    Advances n 1 0 t := by
  have missing : ¬t.world.store.inTransaction n = true := by simp [before]
  refine ⟨?_, ⟨fun commits => ?_, fun _ inside => ?_⟩, fun _ inside => absurd inside missing⟩
  · rw [Turn.ends_of_outside other before, Turn.releases_of_connected conn]
    by_cases state : t.step.unit.state = .ongoing
    · exact .lost state (remembers state) connected conn outside
    · exact .outside state undisposed connected conn outside
  · rw [other] at commits
    cases commits
  · exact absurd (inside ongoing) missing

/-- The transaction ends, and the connection is kept. -/
theorem leaves (before : t.world.store.inTransaction n = true)
    (state : t.step.unit.state = .committed ∨ t.step.unit.state = .rolledBack)
    (connected : t.step.unit.connection = some n) (store : t.step.world.store = s)
    (conn : s.connection? n = some c) (transaction : c.inTransaction = false)
    (effect : t.TakesEffect n) : Advances n 0 0 t := by
  subst store
  have outside := (Store.inTransaction_eq conn).trans transaction
  have past : t.step.unit.state ≠ .ongoing ∧ t.step.unit.state ≠ .disposed := by
    rcases state with state | state <;> simp [state]
  refine ⟨?_, effect, fun ongoing => absurd ongoing past.1⟩
  rw [Turn.ends_of_ended before outside, Turn.releases_of_connected conn]
  exact .outside past.1 past.2 connected conn transaction

theorem unchanged (stands : Stands n t.unit t.world.store ended released)
    (other : t.commits = false) (unit : t.step.unit = t.unit)
    (store : t.step.world.store = t.world.store) : Advances n ended released t := by
  refine ⟨?_, .of_other other store fun _ => rfl, fun _ inside => .inl (store ▸ inside)⟩
  rw [Turn.ends_of_other other fun inside => by rw [store]; exact inside,
    Turn.releases_of_same (by rw [store]), unit, store]
  exact stands

section

variable (connected : u.connection = some n) (conn : w.store.connection? n = some c)
  (transaction : c.inTransaction = true)

include connected conn transaction

theorem within (state : u.state = .ongoing) {request : Request}
    (goes_on : UnitOfWork.GoesOn n c u w (request.run u w))
    (other : (Turn.mk request u w).commits = false) : Advances n 0 0 ⟨request, u, w⟩ := by
  have remembers := goes_on.remembers
  rw [UnitOfWork.Remembers] at remembers
  have state' : (request.run u w).unit.state = .ongoing := by rw [remembers, ← state]
  have connected' : (request.run u w).unit.connection = some n := by rw [remembers, ← connected]
  rcases goes_on.moved with store | ⟨c', store, _, goes_on⟩
  · exact .goes_on other state' connected' store conn transaction fun _ => rfl
  have conn' := Store.connection?_putConnection_self conn c'
  cases inside : c'.inTransaction with
  | true => exact .goes_on other state' connected' store conn' inside fun _ => rfl
  | false =>
    obtain ⟨_, fails⟩ := goes_on.resolve_left (by simp [inside])
    refine .loses ((Store.inTransaction_eq conn).trans transaction) other state' ?_ connected' store
      conn' inside (fun _ => rfl) fails
    obtain ⟨f, answer⟩ := fails.isExecution
    have failure : (request.run u w).unit.failure = u.failure.or (some f) := by
      rw [remembers, answer]
      rfl
    simp [Turn.step, failure]

/-- What was written is discarded. -/
theorem rolled {request : Request} {failure : Option FailedStatement}
    (other : (Turn.mk request u w).commits = false)
    (unit : (request.run u w).unit = { u with state := .rolledBack, failure := failure })
    (store : (request.run u w).world.store = w.store.putConnection n c.released) :
    Advances n 0 0 ⟨request, u, w⟩ := by
  exact .leaves ((Store.inTransaction_eq conn).trans transaction)
    (.inr (congrArg UnitOfWork.state unit))
    ((congrArg UnitOfWork.connection unit).trans connected) store
    (Store.connection?_putConnection_self conn _) rfl (.of_other other store fun _ => rfl)

theorem commit (state : u.state = .ongoing) : Advances n 0 0 ⟨.commit, u, w⟩ := by
  have opened := UnitOfWork.opened_of_ongoing state connected
  rcases UnitOfWork.commit_cases opened conn transaction with
    ⟨-, answer, unit, store⟩ | ⟨e, failure, answer, unit, store⟩
  · refine .leaves ((Store.inTransaction_eq conn).trans transaction)
      (.inl (congrArg UnitOfWork.state unit))
      ((congrArg UnitOfWork.connection unit).trans connected) store
      (Store.connection?_keep_self conn) rfl ⟨fun _ => ⟨c, conn, store⟩, fun other => ?_⟩
    rw [Turn.commits, answer] at other
    cases other
  · exact .rolled connected conn transaction (Turn.commits_of_error answer) unit store

theorem rollback (state : u.state = .ongoing) : Advances n 0 0 ⟨.rollback, u, w⟩ := by
  obtain ⟨unit, store⟩ :=
    UnitOfWork.rollback_ok (UnitOfWork.opened_of_ongoing state connected) conn transaction
  exact .rolled connected conn transaction rfl unit store

end

section

variable (state : u.state = .ongoing) (connected : u.connection = some n)
  (conn : w.store.connection? n = some c) (outside : c.inTransaction = false)

include state connected conn outside

/-- A call of a unit without its transaction is committed at once. -/
theorem call_lost (remembers : u.failure ≠ none) (call : Call) :
    Advances n 1 0 ⟨.call call, u, w⟩ := by
  obtain ⟨c', conn', outside'⟩ :=
    Call.isOutside_run (UnitOfWork.opened_of_ongoing state connected) conn outside call
  have remembered := call.remembers u w
  rw [UnitOfWork.Remembers] at remembered
  have failure : (call.run u w).unit.failure ≠ none := by
    rw [remembered]
    cases failed : u.failure with
    | none => exact absurd failed remembers
    | some f => simp
  exact .goes_without ((Store.inTransaction_eq conn).trans outside) state rfl (fun _ => failure)
    (by simp [Turn.step, Request.run, remembered, state])
    (by simp [Turn.step, Request.run, remembered, connected]) conn' outside'

theorem commit_lost (remembers : u.failure ≠ none) : Advances n 1 0 ⟨.commit, u, w⟩ := by
  obtain ⟨f, failed⟩ := Option.ne_none_iff_exists'.mp remembers
  obtain ⟨answer, unit, store⟩ := UnitOfWork.commit_outside
    (UnitOfWork.opened_of_ongoing state connected) conn outside failed
  have left : (Turn.mk .commit u w).step.world.store.connection? n = some c :=
    (congrArg (Store.connection? · n) store).trans conn
  have ended : (Turn.mk .commit u w).step.unit = { u with state := .rolledBack, failure := none } :=
    unit
  exact .goes_without ((Store.inTransaction_eq conn).trans outside) state
    (Turn.commits_of_error answer) (by simp [ended]) (by simp [ended])
    (by simp [ended, connected]) left outside

theorem rollback_lost : Advances n 1 0 ⟨.rollback, u, w⟩ := by
  obtain ⟨unit, store⟩ := UnitOfWork.rollback_outside
    (UnitOfWork.opened_of_ongoing state connected) conn outside
  have left : (Turn.mk .rollback u w).step.world.store.connection? n = some c :=
    (congrArg (Store.connection? · n) store).trans conn
  have ended : (Turn.mk .rollback u w).step.unit = { u with state := .rolledBack } := unit
  exact .goes_without ((Store.inTransaction_eq conn).trans outside) state rfl (by simp [ended])
    (by simp [ended]) (by simp [ended, connected]) left outside

end

/-- A connection is closed, with the transaction that may be left. -/
theorem closes (connected : u.connection = some n) (conn : w.store.connection? n = some c)
    (once : (Turn.mk .dispose u w).step.world.store.inTransaction n = false →
      ended + (Turn.mk .dispose u w).ends n = 1) :
    Advances n ended 0 ⟨.dispose, u, w⟩ := by
  obtain ⟨unit, store⟩ := UnitOfWork.dispose_connected connected conn
  have closed : (Turn.mk .dispose u w).step.world.store.connection? n = none :=
    (congrArg (Store.connection? · n) store).trans ((Store.connection?_close ..).trans (if_pos rfl))
  have disposed : (Turn.mk .dispose u w).step.unit.state = .disposed :=
    congrArg UnitOfWork.state unit
  refine ⟨?_, .of_other rfl store fun _ => rfl, fun ongoing => by cases disposed.symm.trans ongoing⟩
  rw [once (Store.inTransaction_of_closed closed), Turn.releases_of_closed conn closed]
  exact .gone disposed (congrArg UnitOfWork.connection unit) closed

theorem dispose (stands : Stands n u w.store ended released) :
    Advances n ended released ⟨.dispose, u, w⟩ := by
  cases stands with
  | inside state connected conn transaction =>
    refine .closes connected conn fun outside => ?_
    rw [Turn.ends_of_ended ((Store.inTransaction_eq conn).trans transaction) outside]
  | lost _ _ connected conn outside | outside _ _ connected conn outside =>
    refine .closes connected conn fun _ => ?_
    rw [Turn.ends_of_outside rfl ((Store.inTransaction_eq conn).trans outside)]
  | gone state disconnected closed =>
    have same := UnitOfWork.dispose_disconnected (w := w) disconnected
    exact .unchanged (.gone state disconnected closed) rfl (congrArg Prod.fst same)
      (congrArg (fun left : UnitOfWork × World => left.2.store) same)

/-- Once the unit is over it is disposed of, or refuses. -/
theorem next_ended (stands : Stands n u w.store ended released) (past : u.state ≠ .ongoing)
    (request : Request) : Advances n ended released ⟨request, u, w⟩ := by
  by_cases disposes : request = .dispose
  · subst disposes
    exact dispose stands
  · obtain ⟨e, answer, unit, store⟩ :=
      UnitOfWork.gives_closed (UnitOfWork.closed_of_not_ongoing past) request disposes w
    exact .unchanged stands (Turn.commits_of_error answer) unit store

theorem next (stands : Stands n u w.store ended released) (request : Request)
    (typed : request.IsTyped) : Advances n ended released ⟨request, u, w⟩ := by
  cases stands with
  | outside past undisposed connected conn transaction =>
    exact next_ended (.outside past undisposed connected conn transaction) past request
  | gone state disconnected closed =>
    exact next_ended (.gone state disconnected closed) (by simp [state]) request
  | inside state connected conn transaction =>
    have opened := UnitOfWork.opened_of_ongoing state connected
    cases request with
    | execute | query => exact typed.elim
    | call call =>
      exact within connected conn transaction state
        (UnitOfWork.goesOn_call opened conn transaction call) rfl
    | commit => exact .commit connected conn transaction state
    | rollback => exact .rollback connected conn transaction state
    | dispose => exact .dispose (.inside state connected conn transaction)
  | lost state remembers connected conn outside =>
    cases request with
    | execute | query => exact typed.elim
    | call call => exact call_lost state connected conn outside remembers call
    | commit => exact commit_lost state connected conn outside remembers
    | rollback => exact rollback_lost state connected conn outside
    | dispose => exact .dispose (.lost state remembers connected conn outside)

end Advances

theorem Request.becomes (request : Request) (u : UnitOfWork) (w : World) :
    u.state.Becomes (request.run u w).unit.state := by
  by_cases ongoing : u.state = .ongoing
  · rw [ongoing]
    exact .of_ongoing _
  · by_cases disposes : request = .dispose
    · subst disposes
      cases connected : u.connection with
      | none =>
        have same := UnitOfWork.dispose_disconnected (w := w) connected
        rw [Request.run, Session.disposing, same]
        exact .refl _
      | some n =>
        have disposed : (Request.run .dispose u w).unit.state = .disposed := by
          rw [Request.run, Session.disposing, UnitOfWork.dispose, connected]
        rw [disposed]
        exact .to_disposed _
    · obtain ⟨e, _, unit, _⟩ :=
        UnitOfWork.gives_closed (UnitOfWork.closed_of_not_ongoing ongoing) request disposes w
      rw [unit]
      exact .refl _

/-! ## Runs -/

theorem countP_snoc {α : Type _} (p : α → Bool) (before : List α) (a : α) :
    (before ++ [a]).countP p = before.countP p + (p a).toNat := by
  rw [List.countP_append, List.countP_singleton]
  cases p a <;> rfl

namespace Course

variable {n : Nat} {u₀ u : UnitOfWork} {w₀ w : World} {turns : List Turn}

/-- The count of what has been given up goes with the stage that the unit has reached. -/
theorem stands (course : Course n u₀ w₀ turns u w) (begun : Stands n u₀ w₀.store 0 0) :
    Stands n u w.store (turns.countP Turn.commits + turns.countP (Turn.rollsBack n))
        (turns.countP (Turn.releases n)) ∧
      ∀ t ∈ turns, t.TakesEffect n := by
  induction course with
  | begun => exact ⟨begun, fun _ mem => absurd mem List.not_mem_nil⟩
  | others w' m course same ih => exact ⟨ih.1.onMedium same, ih.2⟩
  | @next turns u w request course typed ih =>
    obtain ⟨next, effect, _⟩ := Advances.next ih.1 request typed
    rw [Turn.ends, Nat.add_add_add_comm] at next
    constructor
    · rw [countP_snoc, countP_snoc, countP_snoc]
      exact next
    · intro t mem
      rcases List.mem_append.mp mem with before | now
      · exact ih.2 t before
      · cases List.mem_singleton.mp now
        exact effect

/-- Only a failure of the medium takes its transaction from a unit that is open. -/
theorem lost (course : Course n u₀ w₀ turns u w) (begun : Stands n u₀ w₀.store 0 0)
    (ongoing : u.state = .ongoing) :
    w.store.inTransaction n = true ∨ ∃ t ∈ turns, FailsByMedium t.step.answer := by
  induction course with
  | begun =>
    cases begun with
    | inside _ _ conn transaction => exact .inl ((Store.inTransaction_eq conn).trans transaction)
  | @others turns u w w' m course same ih =>
    refine (ih ongoing).imp_left fun inside => ?_
    cases conn : w.store.connection? n with
    | none => simp [Store.inTransaction, conn] at inside
    | some c =>
      rw [Store.inTransaction_eq conn] at inside
      rw [conn] at same
      exact (Store.inTransaction_eq same).trans inside
  | @next turns u w request course typed ih =>
    have advances := Advances.next (course.stands begun).1 request typed
    rcases ih ((request.becomes u w).ongoing ongoing) with inside | ⟨t, mem, fails⟩
    · refine (advances.stays ongoing inside).imp_right fun fails => ?_
      exact ⟨_, List.mem_append_right _ (List.mem_singleton_self _), fails⟩
    · exact .inr ⟨t, List.mem_append_left _ mem, fails⟩

theorem states (course : Course n u₀ w₀ turns u w) :
    (turns.map (·.unit.state) ++ [u.state]).Pairwise UnitState.Becomes := by
  induction course with
  | begun => exact List.pairwise_singleton ..
  | others w' m course same ih => exact ih
  | @next turns u w request course typed ih =>
    have step := request.becomes u w
    rw [List.map_append, List.map_singleton]
    refine List.pairwise_append.mpr ⟨ih, List.pairwise_singleton .., ?_⟩
    intro earlier mem last here
    cases List.mem_singleton.mp here
    rcases List.mem_append.mp mem with before | now
    · exact ((List.pairwise_append.mp ih).2.2 earlier before u.state (.head _)).trans step
    · cases List.mem_singleton.mp now
      exact step

end Course

theorem stands_of_begin {w w₀ : World} {n : Nat} {o : StoreOptions} {u₀ : UnitOfWork}
    (begun : UnitOfWork.begin w n o = (.ok u₀, w₀)) : Stands n u₀ w₀.store 0 0 := by
  rcases ran : w.store.runCommand n (.begin o.transactionMode) with ⟨_ | _, s⟩
  · rw [UnitOfWork.begin, ran] at begun
    cases begun
  · rw [UnitOfWork.begin, ran] at begun
    cases begun
    cases conn : w.store.connection? n with
    | none => simp [Store.runCommand, conn] at ran
    | some c =>
      rw [Store.runCommand_begin conn] at ran
      split at ran
      · cases ran
      · split at ran
        · cases ran
        · cases ran
          exact .inside rfl rfl (Store.connection?_putConnection_self conn _)
            (Connection.begun_inTransaction ..)

/-- The connection of a unit is there until it is disposed of, and in a transaction as long as it
is open, unless a call has failed because the medium did. Outside of that state, which is never
entered again, whatever would reach the store is refused with nothing changed. When the unit is
dropped, its transaction has been committed or rolled back, and its connection released, exactly
once. -/
theorem UnitOfWork.lifecycle {w₀ w₁ w : World} {n : Nat} {o : StoreOptions} {u₀ u : UnitOfWork}
    {turns : List Turn} (begun : begin w₀ n o = (.ok u₀, w₁)) (course : Course n u₀ w₁ turns u w) :
    Lifecycle n turns u w := by
  obtain ⟨stands, _⟩ := course.stands (stands_of_begin begun)
  obtain ⟨connection, connected, inside⟩ := stands.agrees
  obtain ⟨dropped, effects⟩ := (course.next .dispose trivial).stands (stands_of_begin begun)
  obtain ⟨ended, released⟩ := dropped.once_of_disposed stands.disposed
  exact {
    connection := connection
    connected := connected
    inside := inside
    lost := fun ongoing outside =>
      (course.lost (stands_of_begin begun) ongoing).resolve_left (by simp [outside])
    states := course.states
    commit_refused := fun past => by rw [commit, closed_of_not_ongoing past]
    rollback_refused := fun past => by rw [rollback, closed_of_not_ongoing past]
    execute_refused := fun past _ _ _ => by rw [execute, closed_of_not_ongoing past]
    query_refused := fun past _ _ _ _ _ => by rw [query, closed_of_not_ongoing past]
    call_refused := fun past call d statement prepared =>
      Call.gives_notOpen prepared (closed_of_not_ongoing past)
    ended_once := ended
    released_once := released
    effects := effects }

def turnsOf : List Request → UnitOfWork → World → List Turn
  | [], _, _ => []
  | request :: rest, u, w =>
    ⟨request, u, w⟩ :: turnsOf rest (request.run u w).unit (request.run u w).world

theorem Course.askAll {n : Nat} {u₀ u : UnitOfWork} {w₀ w : World} {turns : List Turn}
    (course : Course n u₀ w₀ turns u w) {requests : List Request}
    (typed : ∀ request ∈ requests, request.IsTyped) :
    Course n u₀ w₀ (turns ++ turnsOf requests u w) (askAll requests u w).2.1
      (askAll requests u w).2.2 := by
  induction requests generalizing turns u w with
  | nil =>
    rw [turnsOf, List.append_nil]
    exact course
  | cons request rest ih =>
    have later := ih (course.next request (typed request (List.mem_cons_self ..)))
      fun r mem => typed r (List.mem_cons_of_mem _ mem)
    rw [List.append_assoc] at later
    exact later

/-- A commit, then a rollback that comes too late, and the unit is disposed of twice. -/
def outlived : List Request :=
  [.call (.create entryRecord UnitOfWork.newYear), .commit, .rollback, .dispose, .dispose]

theorem UnitOfWork.lifecycle_outlived :
    ∃ u₀ w₁, begin privateWorld 0 .default = (.ok u₀, w₁) ∧
      Lifecycle 0 (turnsOf outlived u₀ w₁) (askAll outlived u₀ w₁).2.1
        (askAll outlived u₀ w₁).2.2 ∧
      (turnsOf outlived u₀ w₁).map (·.unit.state)
        = [.ongoing, .ongoing, .committed, .committed, .disposed] ∧
      (turnsOf outlived u₀ w₁).countP Turn.commits = 1 := by
  obtain ⟨u₀, w₁, begun, states, commits⟩ :
      ∃ u₀ w₁, begin privateWorld 0 .default = (.ok u₀, w₁) ∧
        (turnsOf outlived u₀ w₁).map (·.unit.state)
          = [.ongoing, .ongoing, .committed, .committed, .disposed] ∧
        (turnsOf outlived u₀ w₁).countP Turn.commits = 1 :=
    ⟨_, _, rfl, by decide +kernel, by decide +kernel⟩
  have typed : ∀ request ∈ outlived, request.IsTyped := by
    intro request mem
    simp only [outlived, List.mem_cons, List.not_mem_nil, or_false] at mem
    rcases mem with rfl | rfl | rfl | rfl | rfl <;> trivial
  exact ⟨u₀, w₁, begun, lifecycle begun (Course.begun.askAll typed), states, commits⟩

/-- The fourth entry does not fit, and the fifth is created when the transaction is gone. -/
def flooded : List Request :=
  [.call (.create entryRecord (UnitOfWork.lengthy 1)),
    .call (.create entryRecord (UnitOfWork.lengthy 2)),
    .call (.create entryRecord (UnitOfWork.lengthy 3)),
    .call (.create entryRecord (UnitOfWork.lengthy 4)),
    .call (.create entryRecord ⟨5, none, .newYear2024⟩)]

/-- A unit that is open has no transaction, and what it writes stays though it reports that it was
rolled back. -/
theorem UnitOfWork.lifecycle_flooded :
    ∃ u₀ w₁ u w f, History.quietWorld.beginUnit (.file "/a.db") .default
        (some "PRAGMA max_page_count = 4") = (.ok u₀, w₁) ∧
      (askAll flooded u₀ w₁).2 = (u, w) ∧ u.state = .ongoing ∧
      w.store.inTransaction 0 = false ∧ (u.commit w).answer = .error (.commitAborted f) ∧
      ((u.commit w).world.readTable "/a.db" "ENTRIES").1
        = .ok [[.integer 5, .null, .text "2024-01-01"]] := by
  obtain ⟨u₀, w₁, u, w, begun, reached, state, outside, connected, failed, kept⟩ :
      ∃ u₀ w₁ u w, History.quietWorld.beginUnit (.file "/a.db") .default
          (some "PRAGMA max_page_count = 4") = (.ok u₀, w₁) ∧
        (askAll flooded u₀ w₁).2 = (u, w) ∧ u.state = .ongoing ∧
        w.store.inTransaction 0 = false ∧ u.openConnection? = some 0 ∧
        u.failure = some ⟨.create, "EntryRecord", .failed (.medium .full)⟩ ∧
        ((u.commit w).world.readTable "/a.db" "ENTRIES").1.toOption
          = some [[.integer 5, .null, .text "2024-01-01"]] :=
    ⟨_, _, _, _, rfl, rfl, by decide +kernel⟩
  exact ⟨u₀, w₁, u, w, _, begun, reached, state, outside, (commit_failed connected failed).1,
    eq_ok_of_toOption kept⟩

end RecordStore
