import RecordStore.Proofs.Session.Requests

/-!
What calls answer and what they leave of the store. A call is prepared in stages, and the first
stage that fails is its answer; only a call that is prepared and finds its unit open reaches the
store. All of it depends on the unit and the store alone.
-/
namespace RecordStore

variable {β γ : Type}

def UnitStep.outcome (s : UnitStep β) : Except RepositoryError β × Store :=
  (s.answer, s.world.store)

/-- What a unit answers that asks the store, and what is left of the store. -/
def UnitOfWork.reply (u : UnitOfWork) (operation : Operation) (entity : String)
    (ask : Store → Nat → Except StoreError β × Store) (s : Store) :
    Except RepositoryError β × Store :=
  match u.openConnection? with
  | none => (.error (.notOpen u.state operation.name), s)
  | some n => ((ask s n).1.mapError fun e => .execution ⟨operation, entity, e⟩, (ask s n).2)

namespace Statement

def read (statement : Statement) (ofRow : ResultRow → Except StoreError β) (s : Store) (n : Nat) :
    Except StoreError (List β) × Store :=
  ((s.query n statement.sql statement.parameters).1.bind (·.mapM ofRow),
    (s.query n statement.sql statement.parameters).2)

def apply (statement : Statement) (s : Store) (n : Nat) : Except StoreError Nat × Store :=
  s.execute n statement.sql statement.parameters

end Statement

namespace Call

def declaration : Call → Declaration
  | getAll r _ | get r _ | create r _ | update r _ _ | delete r _ => r.declaration

def operation : Call → Operation
  | getAll _ _ => .getAll
  | get _ _ => .get
  | create _ _ => .create
  | update _ _ _ => .update
  | delete _ _ => .delete

def predicate? : Call → Option Predicate
  | getAll _ p | get _ p => p
  | create _ _ => none
  | update _ _ p | delete _ p => some p

def values? : Call → Option (List Value)
  | getAll _ _ | get _ _ | delete _ _ => none
  | create r model | update r model _ => some (r.values model)

def build : Call → Descriptor → Filter → Except ArityError Statement
  | getAll _ _, d, f | get _ _, d, f => .ok (Statement.select d f)
  | create r model, d, _ => Statement.insert d (r.values model)
  | update r model _, d, f => Statement.update d (r.values model) f
  | delete _ _, d, f => .ok (Statement.delete d f)

/-- The stages before the unit is asked. -/
def prepare (call : Call) (mode : FilterMode) :
    Except RepositoryError (Descriptor × Statement) := do
  let d ← call.declaration.describe.mapError .configuration
  let f ← Repository.compile call.predicate? d mode
  let statement ← (call.build d f).mapError .statement
  return (d, statement)

/-- What the store answers to the statement of a call. -/
def ask : (call : Call) → Statement → Store → Nat → Except StoreError call.Answer × Store
  | getAll r _, statement, s, n => statement.read r.ofRow s n
  | get r _, statement, s, n =>
    ((statement.read r.ofRow s n).1.map List.head?, (statement.read r.ofRow s n).2)
  | create _ _, statement, s, n | update _ _ _, statement, s, n | delete _ _, statement, s, n =>
    statement.apply s n

def reply (call : Call) (u : UnitOfWork) (s : Store) : Except RepositoryError call.Answer × Store :=
  match call.prepare u.filterMode with
  | .error e => (.error e, s)
  | .ok (d, statement) => u.reply call.operation d.record (call.ask statement) s

end Call

/-! ## Steps of a unit -/

namespace UnitOfWork

variable {u : UnitOfWork} {w : World}

theorem outcome_execute (operation : Operation) (entity : String) (statement : Statement) :
    (u.execute w operation entity statement).outcome
      = u.reply operation entity statement.apply w.store := by
  rw [execute, reply]
  cases u.openConnection? with
  | none => rfl
  | some n => exact Prod.ext (observe_answer ..) (observe_store ..)

theorem outcome_query (operation : Operation) (entity : String)
    (ofRow : ResultRow → Except StoreError β) (statement : Statement) :
    (u.query w operation entity ofRow statement).outcome
      = u.reply operation entity (statement.read ofRow) w.store := by
  rw [query, reply]
  cases u.openConnection? with
  | none => rfl
  | some n => exact Prod.ext (observe_answer ..) (observe_store ..)

theorem reply_map (u : UnitOfWork) (operation : Operation) (entity : String)
    (ask : Store → Nat → Except StoreError β × Store) (f : β → γ) (s : Store) :
    u.reply operation entity (fun s n => ((ask s n).1.map f, (ask s n).2)) s
      = ((u.reply operation entity ask s).1.map f, (u.reply operation entity ask s).2) := by
  rw [reply, reply]
  cases u.openConnection? with
  | none => rfl
  | some n =>
    dsimp only
    cases (ask s n).1 <;> rfl

end UnitOfWork

namespace Repository

variable {α : Type} {u : UnitOfWork} {w : World}

theorem outcome_finish (operation : Operation) (d : Descriptor) (rows : β → Nat)
    (s : UnitStep β) : (finish operation d rows s).outcome = s.outcome :=
  Prod.ext (finish_answer ..) (finish_store ..)

/-- An operation is a call with its stages, if the two build the same statements. -/
theorem outcome_withStatement (call : Call) (r : RecordType α)
    (declared : call.declaration = r.declaration)
    {build : Descriptor → Except RepositoryError Statement}
    {run : Descriptor → Statement → World → UnitStep β}
    {ask : Statement → Store → Nat → Except StoreError β × Store}
    (builds : ∀ d, build d = do
      let f ← compile call.predicate? d u.filterMode
      (call.build d f).mapError .statement)
    (runs : ∀ d statement w,
      (run d statement w).outcome = u.reply call.operation d.record (ask statement) w.store) :
    (withStatement r u w build run).outcome
      = match call.prepare u.filterMode with
        | .error e => (.error e, w.store)
        | .ok (d, statement) => u.reply call.operation d.record (ask statement) w.store := by
  rw [Call.prepare, declared]
  cases accepted : r.declaration.describe with
  | error e =>
    rw [withStatement_of_error accepted]
    exact Prod.ext rfl (w.resolve_store _)
  | ok d =>
    rw [withStatement_of_ok accepted, builds d]
    simp only [mapError_ok, ok_bind]
    cases compile call.predicate? d u.filterMode with
    | error e => exact Prod.ext rfl (w.resolve_store _)
    | ok f =>
      rw [ok_bind, ok_bind]
      cases call.build d f with
      | error e => exact Prod.ext rfl (w.resolve_store _)
      | ok statement =>
        have asked := runs d statement (w.resolve r.declaration).2
        rw [World.resolve_store] at asked
        exact asked

theorem outcome_select (call : Call) (r : RecordType α)
    (declared : call.declaration = r.declaration)
    (builds : ∀ d f, call.build d f = .ok (Statement.select d f)) (w : World) :
    (select r call.operation call.predicate? u w).outcome
      = match call.prepare u.filterMode with
        | .error e => (.error e, w.store)
        | .ok (d, statement) =>
          u.reply call.operation d.record (statement.read r.ofRow) w.store := by
  refine outcome_withStatement call r declared (fun d => ?_) fun d statement w => ?_
  · simp only [builds]
    rfl
  · exact (outcome_finish ..).trans (UnitOfWork.outcome_query ..)

theorem outcome_change (call : Call) (r : RecordType α)
    (declared : call.declaration = r.declaration)
    {build : Descriptor → Except RepositoryError Statement}
    (builds : ∀ d, build d = do
      let f ← compile call.predicate? d u.filterMode
      (call.build d f).mapError .statement) (w : World) :
    (change r call.operation build u w).outcome
      = match call.prepare u.filterMode with
        | .error e => (.error e, w.store)
        | .ok (d, statement) => u.reply call.operation d.record statement.apply w.store :=
  outcome_withStatement call r declared builds fun _ _ _ =>
    (outcome_finish ..).trans (UnitOfWork.outcome_execute ..)

end Repository

namespace Call

variable {call : Call} {u : UnitOfWork} {w : World} {e : RepositoryError}

theorem outcome_run (call : Call) (u : UnitOfWork) (w : World) :
    (call.run u w).outcome = call.reply u w.store := by
  cases call with
  | getAll r p => exact Repository.outcome_select (.getAll r p) r rfl (fun _ _ => rfl) w
  | get r p =>
    have selected := Repository.outcome_select (u := u) (.get r p) r rfl (fun _ _ => rfl) w
    refine (congrArg (fun o : Except RepositoryError (List _) × Store =>
      (o.1.map List.head?, o.2)) selected).trans ?_
    rw [reply]
    cases (Call.get r p).prepare u.filterMode with
    | error e => rfl
    | ok prepared => exact (u.reply_map ..).symm
  | create r model =>
    exact Repository.outcome_change (.create r model) r rfl (fun _ => rfl) w
  | update r model p =>
    exact Repository.outcome_change (.update r model p) r rfl (fun _ => rfl) w
  | delete r p => exact Repository.outcome_change (.delete r p) r rfl (fun _ => rfl) w

/-- All that a call does to its unit and the store. -/
theorem gives_reply (call : Call) (u : UnitOfWork) (w : World) :
    UnitOfWork.Gives (call.run u w) (call.reply u w.store).1
      { u with failure := u.failure.or (failureOf? (call.reply u w.store).1) }
      (call.reply u w.store).2 where
  answer := congrArg Prod.fst (call.outcome_run u w)
  unit := by
    rw [call.remembers u w, ← call.outcome_run u w]
    rfl
  store := congrArg Prod.snd (call.outcome_run u w)

/-! ### Stages -/

section

variable {d : Descriptor} {mode : FilterMode} {p : Predicate} {f : Filter} {values : List Value}

/-- The predicate, where there is one, has a filter. -/
def Compiles (call : Call) (d : Descriptor) (mode : FilterMode) : Prop :=
  ∀ p, call.predicate? = some p → ∃ f, Filter.compile (some p) d mode = .ok f

/-- The model, where there is one, supplies a value for every column. -/
def Fits (call : Call) (d : Descriptor) : Prop :=
  ∀ values, call.values? = some values → values.length = d.columns.length

theorem Compiles.filter (compiles : call.Compiles d mode) :
    ∃ f, Repository.compile call.predicate? d mode = .ok f := by
  cases given : call.predicate? with
  | none => exact ⟨.empty, rfl⟩
  | some p =>
    obtain ⟨f, compiled⟩ := compiles p given
    exact ⟨f, mapError_eq_ok.mpr compiled⟩

theorem Fits.statement (fits : call.Fits d) (f : Filter) :
    ∃ statement, call.build d f = .ok statement := by
  cases call with
  | getAll r p | get r p | delete r p => exact ⟨_, rfl⟩
  | create r model =>
    simp only [build, Statement.insert, Statement.checkArity, if_pos (fits _ rfl)]
    exact ⟨_, rfl⟩
  | update r model p =>
    simp only [build, Statement.update, Statement.checkArity, if_pos (fits _ rfl)]
    exact ⟨_, rfl⟩

theorem build_error (given : call.values? = some values)
    (wrong : values.length ≠ d.columns.length) (f : Filter) :
    call.build d f = .error ⟨d.table, d.columns.length, values.length⟩ := by
  cases call with
  | getAll r p | get r p | delete r p => cases given
  | create r model =>
    cases given
    simp only [build, Statement.insert, Statement.checkArity, if_neg wrong]
    rfl
  | update r model p =>
    cases given
    simp only [build, Statement.update, Statement.checkArity, if_neg wrong]
    rfl

theorem prepare_configuration {e : SchemaError} (refused : call.declaration.describe = .error e)
    (mode : FilterMode) : call.prepare mode = .error (.configuration e) := by
  rw [prepare, refused]
  rfl

theorem prepare_unsupported {e : PredicateError} (accepted : call.declaration.describe = .ok d)
    (given : call.predicate? = some p) (rejected : Filter.compile (some p) d mode = .error e) :
    call.prepare mode = .error (.unsupportedPredicate e) := by
  rw [prepare, accepted]
  simp only [mapError_ok, mapError_error, ok_bind, given, Repository.compile, rejected]
  rfl

theorem prepare_arity (accepted : call.declaration.describe = .ok d)
    (compiles : call.Compiles d mode) (given : call.values? = some values)
    (wrong : values.length ≠ d.columns.length) :
    call.prepare mode = .error (.statement ⟨d.table, d.columns.length, values.length⟩) := by
  obtain ⟨f, compiled⟩ := compiles.filter
  rw [prepare, accepted]
  simp only [mapError_ok, mapError_error, ok_bind, compiled, build_error given wrong]
  rfl

theorem prepare_ok (accepted : call.declaration.describe = .ok d)
    (compiles : call.Compiles d mode) (fits : call.Fits d) :
    ∃ f statement, Repository.compile call.predicate? d mode = .ok f ∧
      call.build d f = .ok statement ∧ call.prepare mode = .ok (d, statement) := by
  obtain ⟨f, compiled⟩ := compiles.filter
  obtain ⟨statement, built⟩ := fits.statement f
  refine ⟨f, statement, compiled, built, ?_⟩
  rw [prepare, accepted]
  simp only [mapError_ok, ok_bind, compiled, built]
  rfl

end

end Call

/-! ## Refusals -/

/-- The error is found before the store is asked. -/
def RepositoryError.isEarly : RepositoryError → Bool
  | .configuration _ | .unsupportedPredicate _ | .statement _ | .notOpen _ _ => true
  | _ => false

theorem RepositoryError.failure?_of_isEarly {e : RepositoryError} (early : e.isEarly = true) :
    e.failure? = none := by
  cases e <;> first | rfl | cases early

namespace Call

variable {call : Call} {u : UnitOfWork} {w : World} {e : RepositoryError}

theorem isEarly_of_prepare (call : Call) (mode : FilterMode) :
    FailsOnly (RepositoryError.isEarly · = true) (call.prepare mode) := by
  rw [prepare]
  refine .bind (.mapError ?_ _) fun d => .bind (.mapError ?_ _) fun f =>
    .bind (.mapError ?_ _) fun statement => .ok _
  · exact fun _ => rfl
  · exact fun _ => rfl
  · exact fun _ => rfl

theorem gives_unprepared (refused : call.prepare u.filterMode = .error e) :
    UnitOfWork.Gives (call.run u w) (.error e) u w.store := by
  have gives := call.gives_reply u w
  have early := (call.isEarly_of_prepare u.filterMode).of_error e refused
  rw [reply, refused] at gives
  simpa [failureOf?, RepositoryError.failure?_of_isEarly early] using gives

theorem gives_notOpen {d : Descriptor} {statement : Statement}
    (prepared : call.prepare u.filterMode = .ok (d, statement))
    (closed : u.openConnection? = none) :
    UnitOfWork.Gives (call.run u w) (.error (.notOpen u.state call.operation.name)) u w.store := by
  have gives := call.gives_reply u w
  simp only [reply, prepared, UnitOfWork.reply, closed] at gives
  simpa [failureOf?, RepositoryError.failure?] using gives

/-- A call that is refused early changes neither its unit nor the store. -/
theorem gives_of_isEarly (answer : (call.run u w).answer = .error e) (early : e.isEarly = true) :
    UnitOfWork.Gives (call.run u w) (.error e) u w.store := by
  cases prepared : call.prepare u.filterMode with
  | error e' =>
    have gives := gives_unprepared (w := w) prepared
    cases Except.error.inj (answer.symm.trans gives.answer)
    exact gives
  | ok prepared' =>
    obtain ⟨d, statement⟩ := prepared'
    cases opened : u.openConnection? with
    | none =>
      have gives := gives_notOpen (w := w) prepared opened
      cases Except.error.inj (answer.symm.trans gives.answer)
      exact gives
    | some n =>
      have asked := (call.gives_reply u w).answer.symm.trans answer
      simp only [reply, prepared, UnitOfWork.reply, opened] at asked
      cases failed : (call.ask statement w.store n).1 with
      | ok b =>
        rw [failed] at asked
        cases asked
      | error e' =>
        rw [failed] at asked
        cases asked
        cases early

end Call

end RecordStore
