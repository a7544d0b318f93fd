import RecordStore.Proofs.Session.Emptied
import RecordStore.Proofs.Session.Invariants
import RecordStore.Proofs.Session.Requests
import RecordStore.Proofs.Store.Alike

/-!
Requests that differ in constants and models only, made of units that differ in what they were
told, in worlds that differ in rows. If they end alike, the units go on in one way and the same
events are logged, as far as a failure may be told.
-/
namespace RecordStore

/-! ## Worlds, units and outcomes -/

structure FailedStatement.ToldAlike (inline : Prop) (f f' : FailedStatement) : Prop where
  operation : f.operation = f'.operation
  entity : f.entity = f'.entity
  error : f.error.ToldAlike inline f'.error

/-- The same event, but for what is told of a statement that failed. -/
inductive Event.ToldAlike (inline : Prop) : Event → Event → Prop
  | same (e : Event) : ToldAlike inline e e
  | failed {f f' : FailedStatement} :
      f.ToldAlike inline f' → ToldAlike inline (.statementFailed f) (.statementFailed f')

/-- The same world but for the rows, and what was told of failures. -/
structure World.Alike (inline : Prop) (w w' : World) : Prop where
  store : w.store.emptied = w'.store.emptied
  named : w.store.IsNamed
  resolved : w.resolved = w'.resolved
  events : List.Forall₂ (Event.ToldAlike inline) w.events w'.events

namespace World.Alike

variable {inline : Prop} {w w' : World}

theorem logBoth (alike : w.Alike inline w') {e e' : Event} (told : e.ToldAlike inline e') :
    (w.log e).Alike inline (w'.log e') where
  store := alike.store
  named := alike.named
  resolved := alike.resolved
  events := List.rel_append alike.events (.cons told .nil)

theorem log (alike : w.Alike inline w') (e : Event) : (w.log e).Alike inline (w'.log e) :=
  alike.logBoth (.same e)

theorem withStore (alike : w.Alike inline w') {s s' : Store} (same : s.emptied = s'.emptied)
    (named : s.IsNamed) : World.Alike inline { w with store := s } { w' with store := s' } where
  store := same
  named := named
  resolved := alike.resolved
  events := alike.events

theorem resolve (alike : w.Alike inline w') (d : Declaration) :
    (w.resolve d).2.Alike inline (w'.resolve d).2 := by
  unfold World.resolve
  cases d.describe with
  | error e => exact alike.log _
  | ok descriptor =>
    dsimp only
    rw [alike.resolved]
    split
    · exact alike
    · have known : World.Alike inline { w with resolved := d.record :: w'.resolved }
          { w' with resolved := d.record :: w'.resolved } :=
        ⟨alike.store, alike.named, rfl, alike.events⟩
      exact known.log _

end World.Alike

/-- The same unit but for what it was told of its failure. It has inline filters only if these
are admitted. -/
structure UnitOfWork.Alike (inline : Prop) (u u' : UnitOfWork) : Prop where
  connection : u.connection = u'.connection
  state : u.state = u'.state
  failure : Option.Rel (FailedStatement.ToldAlike inline) u.failure u'.failure
  filterMode : u.filterMode = u'.filterMode
  admits : u.filterMode = .inline → inline

structure UnitStep.Alike {α β : Type} (inline : Prop) (s : UnitStep α) (s' : UnitStep β) :
    Prop where
  unit : s.unit.Alike inline s'.unit
  world : s.world.Alike inline s'.world

inductive ErrorKind
  | configuration
  | unsupportedPredicate
  | statement
  | execution
  | notOpen
  | commitAborted
  | commit
  | database
deriving DecidableEq

namespace RepositoryError

def kind : RepositoryError → ErrorKind
  | .configuration _ => .configuration
  | .unsupportedPredicate _ => .unsupportedPredicate
  | .statement _ => .statement
  | .execution _ => .execution
  | .notOpen _ _ => .notOpen
  | .commitAborted _ => .commitAborted
  | .commit _ => .commit
  | .database _ => .database

/-- The code that the engine gave to the cause of the error. -/
def code? : RepositoryError → Option FailureCode
  | .execution f | .commitAborted f => f.error.code?
  | .commit (.store e) | .database (.store e) => e.code?
  | _ => none

/-- The errors are of one kind, and the engine gave their causes the same code, or none. -/
structure Alike (e e' : RepositoryError) : Prop where
  kind : e.kind = e'.kind
  code : e.code? = e'.code?

/-- There is no statement to run. -/
def isUnbuilt (e : RepositoryError) : Bool :=
  e.kind = .unsupportedPredicate || e.kind = .statement

theorem Alike.isUnbuilt {e e' : RepositoryError} (alike : e.Alike e') :
    e.isUnbuilt = e'.isUnbuilt := by
  rw [RepositoryError.isUnbuilt, RepositoryError.isUnbuilt, alike.kind]

end RepositoryError

/-! ## Statements -/

namespace UnitOfWork

variable {α β : Type} {inline : Prop} {u u' : UnitOfWork} {w w' : World} {R : α → β → Prop}
  {operation : Operation} {entity : String}

theorem Alike.openConnection? (units : u.Alike inline u') :
    u'.openConnection? = u.openConnection? := by
  rw [UnitOfWork.openConnection?, UnitOfWork.openConnection?, units.state, units.connection]

theorem ends_of_execution {x : Except StoreError α} {y : Except StoreError β}
    (ends : EndsAlike R RepositoryError.Alike
      (x.mapError fun e => .execution ⟨operation, entity, e⟩)
      (y.mapError fun e => .execution ⟨operation, entity, e⟩)) :
    EndsAlike R StoreError.SameCode x y := by
  cases x with
  | ok a =>
    cases y with
    | ok b =>
      obtain related | - := ends
      exact .ok related
    | error e' => cases ends
  | error e =>
    cases y with
    | ok b => cases ends
    | error e' =>
      obtain - | alike := ends
      exact .error alike.code

theorem alike_observe (units : u.Alike inline u') (worlds : w.Alike inline w')
    {x : Except StoreError α} {y : Except StoreError β}
    (ends : EndsAlike R (StoreError.ToldAlike (u.filterMode = .inline)) x y) :
    (u.observe w operation entity x).Alike inline (u'.observe w' operation entity y) := by
  cases ends with
  | ok _ => exact ⟨units, worlds.log _⟩
  | @error e e' told =>
    have failed : FailedStatement.ToldAlike inline ⟨operation, entity, e⟩ ⟨operation, entity, e'⟩ :=
      ⟨rfl, rfl, told.mono units.admits⟩
    refine ⟨⟨units.connection, units.state, ?_, units.filterMode, units.admits⟩,
      worlds.logBoth (.failed failed)⟩
    dsimp only [observe]
    rcases eq_none_or_some_of_rel units.failure with ⟨clean, clean'⟩ | ⟨f, f', held, held', told⟩
    · rw [clean, clean']
      exact .some failed
    · rw [held, held']
      exact .some told

theorem alike_query {ofRow : ResultRow → Except StoreError α} {a b : Statement}
    (reads : ∀ row, FailsOnly (·.code? = none) (ofRow row)) (units : u.Alike inline u')
    (worlds : w.Alike inline w') (select : ∃ rest, a.sql.toList = "SELECT".toList ++ ' ' :: rest)
    (select' : ∃ rest, b.sql.toList = "SELECT".toList ++ ' ' :: rest)
    (vetted : Statement.VettedAlike u.filterMode a b)
    (ends : EndsAlike SameLength RepositoryError.Alike
      (u.query w operation entity ofRow a).answer (u'.query w' operation entity ofRow b).answer) :
    (u.query w operation entity ofRow a).Alike inline (u'.query w' operation entity ofRow b) := by
  unfold query at ends ⊢
  rw [units.openConnection?] at ends ⊢
  generalize u.openConnection? = connection at ends ⊢
  cases connection with
  | none => exact ⟨units, worlds⟩
  | some n =>
    dsimp only at ends ⊢
    rw [observe_answer, observe_answer] at ends
    obtain ⟨ends, stores⟩ := Store.alike_query reads worlds.store select select' vetted
      (ends_of_execution ends)
    exact alike_observe units
      (worlds.withStore stores (Store.invariant_isNamed.run worlds.named n _ _)) ends

theorem alike_execute {a b : Statement} (units : u.Alike inline u') (worlds : w.Alike inline w')
    (change : Sql.IsChange a.sql) (change' : Sql.IsChange b.sql)
    (vetted : Statement.VettedAlike u.filterMode a b)
    (ends : EndsAlike Eq RepositoryError.Alike
      (u.execute w operation entity a).answer (u'.execute w' operation entity b).answer) :
    (u.execute w operation entity a).Alike inline (u'.execute w' operation entity b) := by
  unfold execute at ends ⊢
  rw [units.openConnection?] at ends ⊢
  generalize u.openConnection? = connection at ends ⊢
  cases connection with
  | none => exact ⟨units, worlds⟩
  | some n =>
    dsimp only at ends ⊢
    rw [observe_answer, observe_answer] at ends
    obtain ⟨ends, stores⟩ := Store.alike_execute worlds.store worlds.named change change' vetted
      (ends_of_execution ends)
    exact alike_observe units
      (worlds.withStore stores (Store.invariant_isNamed.run worlds.named n _ _)) ends

theorem built_observe (u : UnitOfWork) (w : World) (operation : Operation) (entity : String)
    (result : Except StoreError α) :
    FailsOnly (·.isUnbuilt = false) (u.observe w operation entity result).answer := by
  cases result with
  | ok a => exact .ok a
  | error e => exact .error rfl

theorem built_query (entity : String) (operation : Operation)
    (ofRow : ResultRow → Except StoreError α) (statement : Statement) :
    FailsOnly (·.isUnbuilt = false) (u.query w operation entity ofRow statement).answer := by
  unfold query
  cases u.openConnection? with
  | none => exact .error rfl
  | some n => exact built_observe ..

theorem built_execute (entity : String) (operation : Operation) (statement : Statement) :
    FailsOnly (·.isUnbuilt = false) (u.execute w operation entity statement).answer := by
  unfold execute
  cases u.openConnection? with
  | none => exact .error rfl
  | some n => exact built_observe ..

end UnitOfWork

/-! ## Calls -/

namespace Repository

variable {α β : Type} {inline : Prop} {u u' : UnitOfWork} {w w' : World} {R : β → β → Prop}

theorem alike_finish {s s' : UnitStep β} (alike : s.Alike inline s') {rows : β → Nat}
    {Q : RepositoryError → RepositoryError → Prop}
    (ends : EndsAlike (fun a b => rows a = rows b) Q s.answer s'.answer) (operation : Operation)
    (d : Descriptor) : (finish operation d rows s).Alike inline (finish operation d rows s') := by
  obtain ⟨answer, unit, world⟩ := s
  obtain ⟨answer', unit', world'⟩ := s'
  cases ends with
  | ok same =>
    unfold finish
    dsimp only at same ⊢
    rw [same]
    exact ⟨alike.unit, alike.world.log _⟩
  | error _ => exact alike

/-- Either nothing is asked or both statements are, as an error shows which. -/
theorem alike_withStatement (r : RecordType α)
    {build build' : Descriptor → Except RepositoryError Statement}
    {run run' : Descriptor → Statement → World → UnitStep β} (units : u.Alike inline u')
    (worlds : w.Alike inline w') (unbuilt : ∀ d, FailsOnly (·.isUnbuilt = true) (build d))
    (unbuilt' : ∀ d, FailsOnly (·.isUnbuilt = true) (build' d))
    (built : ∀ d statement w, FailsOnly (·.isUnbuilt = false) (run d statement w).answer)
    (built' : ∀ d statement w, FailsOnly (·.isUnbuilt = false) (run' d statement w).answer)
    (next : ∀ d a b w w', d.IsOf r.declaration → build d = .ok a → build' d = .ok b →
      w.Alike inline w' →
      EndsAlike R RepositoryError.Alike (run d a w).answer (run' d b w').answer →
      (run d a w).Alike inline (run' d b w'))
    (ends : EndsAlike R RepositoryError.Alike (withStatement r u w build run).answer
      (withStatement r u' w' build' run').answer) :
    (withStatement r u w build run).Alike inline (withStatement r u' w' build' run') := by
  have resolved := worlds.resolve r.declaration
  cases accepted : r.declaration.describe with
  | error e =>
    rw [withStatement_of_error accepted, withStatement_of_error accepted]
    exact ⟨units, resolved⟩
  | ok d =>
    rw [withStatement_of_ok accepted, withStatement_of_ok accepted] at ends ⊢
    cases first : build d with
    | error e =>
      cases second : build' d with
      | error e' => exact ⟨units, resolved⟩
      | ok b =>
        rw [first, second] at ends
        obtain ⟨e', failed, alike⟩ := ends.of_error
        have other := (built' d b _).of_error e' failed
        rw [← alike.isUnbuilt, (unbuilt d).of_error e first] at other
        cases other
    | ok a =>
      cases second : build' d with
      | error e' =>
        rw [first, second] at ends
        obtain ⟨e, failed, alike⟩ := ends.to_error
        have other := (built d a _).of_error e failed
        rw [alike.isUnbuilt, (unbuilt' d).of_error e' second] at other
        cases other
      | ok b =>
        rw [first, second] at ends
        exact next d a b _ _ (Declaration.describe_ok accepted) first second resolved ends

theorem unbuilt_compile (p : Option Predicate) (d : Descriptor) (mode : FilterMode) :
    FailsOnly (·.isUnbuilt = true) (compile p d mode) := by
  apply FailsOnly.mapError
  exact fun _ => rfl

theorem unbuilt_arity (x : Except ArityError Statement) :
    FailsOnly (·.isUnbuilt = true) (x.mapError RepositoryError.statement) := by
  apply FailsOnly.mapError
  exact fun _ => rfl

theorem alike_select (r : RecordType α) (reads : ∀ row, FailsOnly (·.code? = none) (r.ofRow row))
    (operation : Operation) {p q : Option Predicate} (shape : Option.Rel Predicate.Alike p q)
    (units : u.Alike inline u') (worlds : w.Alike inline w')
    (ends : EndsAlike SameLength RepositoryError.Alike
      (select r operation p u w).answer (select r operation q u' w').answer) :
    (select r operation p u w).Alike inline (select r operation q u' w') := by
  refine alike_withStatement r units worlds
    (fun d => (unbuilt_compile p d _).bind fun _ => .ok _)
    (fun d => (unbuilt_compile q d _).bind fun _ => .ok _) (fun d statement w => ?_)
    (fun d statement w => ?_) ?_ ends
  · rw [finish_answer]
    exact UnitOfWork.built_query ..
  · rw [finish_answer]
    exact UnitOfWork.built_query ..
  · intro d a b w w' accepted first second worlds ends
    rw [← units.filterMode] at second
    obtain ⟨f, compiled, first⟩ := bind_eq_ok first
    obtain ⟨g, compiled', second⟩ := bind_eq_ok second
    cases Except.ok.inj first
    cases Except.ok.inj second
    have vetted := Statement.vettedAlike_select accepted shape (mapError_eq_ok.mp compiled)
      (mapError_eq_ok.mp compiled')
    rw [finish_answer, finish_answer] at ends
    exact alike_finish (UnitOfWork.alike_query reads units worlds (Statement.begins_select d f)
      (Statement.begins_select d g) vetted ends) ends operation d

theorem alike_change (r : RecordType α) (operation : Operation)
    {build build' : Descriptor → Except RepositoryError Statement} (units : u.Alike inline u')
    (worlds : w.Alike inline w') (unbuilt : ∀ d, FailsOnly (·.isUnbuilt = true) (build d))
    (unbuilt' : ∀ d, FailsOnly (·.isUnbuilt = true) (build' d))
    (changes : ∀ d a, build d = .ok a → Sql.IsChange a.sql)
    (changes' : ∀ d b, build' d = .ok b → Sql.IsChange b.sql)
    (vetted : ∀ d a b, d.IsOf r.declaration → build d = .ok a → build' d = .ok b →
      Statement.VettedAlike u.filterMode a b)
    (ends : EndsAlike Eq RepositoryError.Alike (change r operation build u w).answer
      (change r operation build' u' w').answer) :
    (change r operation build u w).Alike inline (change r operation build' u' w') := by
  refine alike_withStatement r units worlds unbuilt unbuilt' (fun d statement w => ?_)
    (fun d statement w => ?_) ?_ ends
  · rw [finish_answer]
    exact UnitOfWork.built_execute ..
  · rw [finish_answer]
    exact UnitOfWork.built_execute ..
  · intro d a b w w' accepted first second worlds ends
    rw [finish_answer, finish_answer] at ends
    exact alike_finish (UnitOfWork.alike_execute units worlds (changes d a first)
      (changes' d b second) (vetted d a b accepted first second) ends) ends operation d

theorem alike_create (r : RecordType α) (m m' : α) (units : u.Alike inline u')
    (worlds : w.Alike inline w')
    (ends : EndsAlike Eq RepositoryError.Alike (create r m u w).answer
      (create r m' u' w').answer) :
    (create r m u w).Alike inline (create r m' u' w') :=
  alike_change r .create units worlds (fun _ => unbuilt_arity _) (fun _ => unbuilt_arity _)
    (fun _ _ => isChange_create) (fun _ _ => isChange_create)
    (fun _ _ _ accepted first second => Statement.vettedAlike_insert accepted
      (mapError_eq_ok.mp first) (mapError_eq_ok.mp second)) ends

theorem alike_update (r : RecordType α) (m m' : α) {p q : Predicate} (shape : p.Alike q)
    (units : u.Alike inline u') (worlds : w.Alike inline w')
    (ends : EndsAlike Eq RepositoryError.Alike (update r m p u w).answer
      (update r m' q u' w').answer) :
    (update r m p u w).Alike inline (update r m' q u' w') := by
  refine alike_change r .update units worlds
    (fun d => (unbuilt_compile _ d _).bind fun _ => unbuilt_arity _)
    (fun d => (unbuilt_compile _ d _).bind fun _ => unbuilt_arity _)
    (fun _ _ => isChange_update) (fun _ _ => isChange_update) ?_ ends
  intro d a b accepted first second
  rw [← units.filterMode] at second
  obtain ⟨f, compiled, first⟩ := bind_eq_ok first
  obtain ⟨g, compiled', second⟩ := bind_eq_ok second
  exact Statement.vettedAlike_update accepted (.some shape) (mapError_eq_ok.mp compiled)
    (mapError_eq_ok.mp compiled') (mapError_eq_ok.mp first) (mapError_eq_ok.mp second)

theorem alike_delete (r : RecordType α) {p q : Predicate} (shape : p.Alike q)
    (units : u.Alike inline u') (worlds : w.Alike inline w')
    (ends : EndsAlike Eq RepositoryError.Alike (delete r p u w).answer
      (delete r q u' w').answer) :
    (delete r p u w).Alike inline (delete r q u' w') := by
  refine alike_change r .delete units worlds
    (fun d => (unbuilt_compile _ d _).bind fun _ => .ok _)
    (fun d => (unbuilt_compile _ d _).bind fun _ => .ok _)
    (fun _ _ => isChange_delete) (fun _ _ => isChange_delete) ?_ ends
  intro d a b accepted first second
  rw [← units.filterMode] at second
  obtain ⟨f, compiled, first⟩ := bind_eq_ok first
  obtain ⟨g, compiled', second⟩ := bind_eq_ok second
  cases Except.ok.inj first
  cases Except.ok.inj second
  exact Statement.vettedAlike_delete accepted (.some shape) (mapError_eq_ok.mp compiled)
    (mapError_eq_ok.mp compiled')

end Repository

namespace Call

/-- The same call but for the models and the constants of the predicates. -/
inductive Alike : Call → Call → Prop
  | getAll {α : Type} (r : RecordType α) {p q : Option Predicate} :
      Option.Rel Predicate.Alike p q → Alike (.getAll r p) (.getAll r q)
  | get {α : Type} (r : RecordType α) {p q : Option Predicate} :
      Option.Rel Predicate.Alike p q → Alike (.get r p) (.get r q)
  | create {α : Type} (r : RecordType α) (m m' : α) : Alike (.create r m) (.create r m')
  | update {α : Type} (r : RecordType α) (m m' : α) {p q : Predicate} :
      p.Alike q → Alike (.update r m p) (.update r m' q)
  | delete {α : Type} (r : RecordType α) {p q : Predicate} :
      p.Alike q → Alike (.delete r p) (.delete r q)

/-- Rows are not refused under the codes of the engine. -/
def ReadsRows : Call → Prop
  | getAll r _ => ∀ row, FailsOnly (·.code? = none) (r.ofRow row)
  | get r _ => ∀ row, FailsOnly (·.code? = none) (r.ofRow row)
  | _ => True

/-- How many rows a call concerns. A get reads every row that it finds. -/
def outcome : Call → UnitOfWork → World → Except RepositoryError Nat
  | getAll r p, u, w => (Repository.select r .getAll p u w).answer.map List.length
  | get r p, u, w => (Repository.select r .get p u w).answer.map List.length
  | create r model, u, w => (Repository.create r model u w).answer
  | update r model p, u, w => (Repository.update r model p u w).answer
  | delete r p, u, w => (Repository.delete r p u w).answer

variable {a b : Call} {inline : Prop} {u u' : UnitOfWork} {w w' : World}

theorem alike_run (alike : a.Alike b) (reads : a.ReadsRows) (units : u.Alike inline u')
    (worlds : w.Alike inline w')
    (ends : EndsAlike Eq RepositoryError.Alike (a.outcome u w) (b.outcome u' w')) :
    (a.run u w).Alike inline (b.run u' w') := by
  cases alike with
  | getAll r shape => exact Repository.alike_select r reads .getAll shape units worlds ends.of_map
  | get r shape =>
    obtain ⟨unit, world⟩ := Repository.alike_select r reads .get shape units worlds ends.of_map
    exact ⟨unit, world⟩
  | create r m m' => exact Repository.alike_create r m m' units worlds ends
  | update r m m' shape => exact Repository.alike_update r m m' shape units worlds ends
  | delete r shape => exact Repository.alike_delete r shape units worlds ends

end Call

end RecordStore
