import RecordStore.Proofs.Session.Bookkeeping

/-!
Errors that are found before a statement is run. They come in a fixed order, and a run of several
units goes on as if the calls that met them had not been made.
-/
namespace RecordStore

open UnitOfWork (Gives)

/-- What a call comes to, stage by stage. -/
structure Call.AnswersInOrder (call : Call) (u : UnitOfWork) (w : World) : Prop where
  configuration : ∀ e, call.declaration.describe = .error e →
    Gives (call.run u w) (.error (.configuration e)) u w.store
  unsupportedPredicate : ∀ d p e, call.declaration.describe = .ok d →
    call.predicate? = some p → Filter.compile (some p) d u.filterMode = .error e →
    Gives (call.run u w) (.error (.unsupportedPredicate e)) u w.store
  statement : ∀ d values, call.declaration.describe = .ok d → call.Compiles d u.filterMode →
    call.values? = some values → values.length ≠ d.columns.length →
    Gives (call.run u w) (.error (.statement ⟨d.table, d.columns.length, values.length⟩)) u w.store
  notOpen : ∀ d, call.declaration.describe = .ok d → call.Compiles d u.filterMode →
    call.Fits d → u.state ≠ .ongoing →
    Gives (call.run u w) (.error (.notOpen u.state call.operation.name)) u w.store
  runs : ∀ d, call.declaration.describe = .ok d → call.Compiles d u.filterMode → call.Fits d →
    u.state = .ongoing → ∃ n f statement, u.connection = some n ∧
      Repository.compile call.predicate? d u.filterMode = .ok f ∧
      call.build d f = .ok statement ∧
      Gives (call.run u w)
        ((call.ask statement w.store n).1.mapError
          fun e => .execution ⟨call.operation, d.record, e⟩)
        { u with failure := u.failure.or (failureOf? (call.run u w).answer) }
        (call.ask statement w.store n).2

theorem Call.answersInOrder (call : Call) {u : UnitOfWork} (w : World)
    (connected : u.state = .ongoing → u.connection ≠ none) : call.AnswersInOrder u w where
  configuration e refused := gives_unprepared (prepare_configuration refused _)
  unsupportedPredicate d p e accepted given rejected :=
    gives_unprepared (prepare_unsupported accepted given rejected)
  statement d values accepted compiles given wrong :=
    gives_unprepared (prepare_arity accepted compiles given wrong)
  notOpen d accepted compiles fits ended := by
    obtain ⟨f, statement, _, _, prepared⟩ := prepare_ok accepted compiles fits
    exact gives_notOpen prepared (UnitOfWork.closed_of_not_ongoing ended)
  runs d accepted compiles fits ongoing := by
    obtain ⟨n, connection⟩ := Option.ne_none_iff_exists'.mp (connected ongoing)
    obtain ⟨f, statement, compiled, built, prepared⟩ := prepare_ok accepted compiles fits
    refine ⟨n, f, statement, connection, compiled, built, ?_⟩
    have opened := UnitOfWork.opened_of_ongoing ongoing connection
    have gives := call.gives_reply u w
    have answered := gives.answer
    simp only [reply, prepared, UnitOfWork.reply, opened] at gives answered
    rw [answered]
    exact gives

/-! ## Runs of a session -/

/-- What happens in a session. Whoever works on the store without its units does so elsewhere. -/
inductive Action : Type 1
  | begin (name : String) (l : Location) (o : StoreOptions) (before : Option String)
  | ask (name : String) (request : Request)
  | drop (name : String)
  | elsewhere {α : Type} (act : Store → α × Store)

namespace Action

def Answer : Action → Type
  | begin _ _ _ _ => Except OpeningError Unit
  | ask _ request => Option (Except RepositoryError request.Answer)
  | drop _ => Bool
  | @elsewhere α _ => α

def run : (action : Action) → Session → action.Answer × Session
  | begin name l o before, s => s.begin name l o before
  | ask name request, s =>
    match s.act name request.run with
    | none => (none, s)
    | some (answer, s) => (some answer, s)
  | drop name, s => s.drop name
  | elsewhere act, s =>
    ((act s.world.store).1, { s with world := { s.world with store := (act s.world.store).2 } })

end Action

structure Done : Type 1 where
  action : Action
  answer : action.Answer

/-- A call of a unit that has met an error before its statement was run. -/
def Done.isRefused : Done → Bool
  | ⟨.ask _ (.call _), some (.error e)⟩ => e.isEarly
  | _ => false

def perform : List Action → Session → List Done × Session
  | [], s => ([], s)
  | action :: rest, s =>
    (⟨action, (action.run s).1⟩ :: (perform rest (action.run s).2).1,
      (perform rest (action.run s).2).2)

/-- Some of the calls that were refused are left out. -/
inductive Spares : List Done → List Done → Prop
  | nil : Spares [] []
  | keep {full kept : List Done} (a : Done) : Spares full kept → Spares (a :: full) (a :: kept)
  | skip {full kept : List Done} {a : Done} :
      a.isRefused = true → Spares full kept → Spares (a :: full) kept

/-! ## Steps -/

namespace Session

variable {s s' : Session}

/-- A session never holds a unit that is open without a connection. -/
def IsConnected (s : Session) : Prop :=
  ∀ name u, s.unit? name = some u → u.state = .ongoing → u.connection ≠ none

theorem IsConnected.update (connected : s.IsConnected) (name : String) (unit : Option UnitOfWork)
    (units : s'.unit? = Function.update s.unit? name unit)
    (joins : ∀ u, unit = some u → u.state = .ongoing → u.connection ≠ none) :
    s'.IsConnected := by
  intro other u found
  rw [units] at found
  by_cases same : other = name
  · subst same
    rw [Function.update_self] at found
    exact joins u found
  · rw [Function.update_of_ne same] at found
    exact connected other u found

theorem Same.begin (same : s.Same s') (name : String) (l : Location) (o : StoreOptions)
    (before : Option String) :
    (s.begin name l o before).1 = (s'.begin name l o before).1 ∧
      (s.begin name l o before).2.Same (s'.begin name l o before).2 := by
  obtain ⟨began, store⟩ := World.beginUnit_same same.store l o before
  rw [Session.begin, Session.begin]
  generalize s.world.beginUnit l o before = first at began store
  generalize s'.world.beginUnit l o before = second at began store
  obtain ⟨answer, w⟩ := first
  obtain ⟨answer', w'⟩ := second
  cases began
  cases answer with
  | error e => exact ⟨rfl, store, same.units⟩
  | ok u =>
    have same : Session.Same { s with world := w } { s' with world := w' } := ⟨store, same.units⟩
    have dropped := (same.drop name).2
    exact ⟨rfl, dropped.put name rfl dropped.store⟩

theorem put_refused {name : String} {u : UnitOfWork} (found : s.unit? name = some u) {call : Call}
    {e : RepositoryError} (answer : (call.run u s.world).answer = .error e)
    (early : e.isEarly = true) :
    (s.put name (call.run u s.world).unit (call.run u s.world).world).Same s := by
  have gives := Call.gives_of_isEarly answer early
  refine ⟨gives.store, ?_⟩
  rw [unit?_put, gives.unit, ← found, Function.update_eq_self]

end Session

open Session

theorem Done.error_of_isRefused {name : String} {call : Call}
    {answer : Except RepositoryError call.Answer}
    (refused : (⟨.ask name (.call call), some answer⟩ : Done).isRefused = true) :
    ∃ e, answer = .error e ∧ e.isEarly = true := by
  cases answer with
  | ok b => cases refused
  | error e => exact ⟨e, rfl, refused⟩

namespace Action

variable {s s' : Session} {name : String} {request : Request}

theorem run_ask_none (found : s.unit? name = none) : (ask name request).run s = (none, s) := by
  rw [run, act_none found]
  rfl

theorem run_ask_some {u : UnitOfWork} (found : s.unit? name = some u) :
    (ask name request).run s = (some (request.run u s.world).answer,
      s.put name (request.run u s.world).unit (request.run u s.world).world) := by
  rw [run, act_some found]
  rfl

theorem run_same (action : Action) (same : s.Same s') :
    (action.run s).1 = (action.run s').1 ∧ (action.run s).2.Same (action.run s').2 := by
  cases action with
  | begin name l o before => exact same.begin name l o before
  | ask name request =>
    have units := congrFun same.units name
    cases found : s'.unit? name with
    | none =>
      rw [run_ask_none (units.trans found), run_ask_none found]
      exact ⟨rfl, same⟩
    | some u =>
      rw [run_ask_some (units.trans found), run_ask_some found]
      have step := request.run_same u same.store
      exact ⟨congrArg some step.answer, same.put name step.unit step.store⟩
  | drop name => exact same.drop name
  | elsewhere act =>
    simp only [Action.run, same.store]
    exact ⟨rfl, rfl, same.units⟩

/-- A refused call leaves the session as it was. -/
theorem run_refused (action : Action) (s : Session)
    (refused : (⟨action, (action.run s).1⟩ : Done).isRefused = true) :
    (action.run s).2.Same s := by
  cases action with
  | begin name l o before | drop name | elsewhere act => cases refused
  | ask name request =>
    cases request with
    | execute operation entity statement | query operation entity ofRow statement | commit
      | rollback | dispose => cases refused
    | call call =>
      cases found : s.unit? name with
      | none =>
        rw [run_ask_none found] at refused
        cases refused
      | some u =>
        rw [run_ask_some found] at refused ⊢
        obtain ⟨e, answer, early⟩ := Done.error_of_isRefused refused
        exact put_refused found answer early

end Action

/-! ## Runs -/

theorem World.connected_of_beginUnit {w w' : World} {l : Location} {o : StoreOptions}
    {before : Option String} {u : UnitOfWork} (begun : w.beginUnit l o before = (.ok u, w')) :
    u.connection ≠ none := by
  simp only [beginUnit, UnitOfWork.begin] at begun
  split at begun
  · cases begun
  · split at begun
    · cases begun
    · split at begun
      · cases begun
      · cases begun
        exact Option.some_ne_none _

theorem Session.IsConnected.begin {s : Session} (connected : s.IsConnected) (name : String)
    (l : Location) (o : StoreOptions) (before : Option String) :
    (s.begin name l o before).2.IsConnected := by
  rw [Session.begin]
  cases begun : s.world.beginUnit l o before with
  | mk answer w =>
    cases answer with
    | error e => exact connected
    | ok u =>
      refine connected.update name (some u) ?_ ?_
      · rw [unit?_put, unit?_drop, Function.update_idem]
        rfl
      · rintro _ ⟨⟩ -
        exact World.connected_of_beginUnit begun

theorem Session.IsConnected.ask {s : Session} (connected : s.IsConnected) (name : String)
    (request : Request) : ((Action.ask name request).run s).2.IsConnected := by
  cases found : s.unit? name with
  | none =>
    rw [Action.run_ask_none found]
    exact connected
  | some u =>
    rw [Action.run_ask_some found]
    refine connected.update name (some _) (unit?_put ..) ?_
    rintro _ ⟨⟩ still
    have remembers := UnitOfWork.remembers_of_ongoing request still
    rw [UnitOfWork.Remembers] at remembers
    rw [remembers] at still ⊢
    exact connected name u found still

theorem Session.IsConnected.run {s : Session} (connected : s.IsConnected) (action : Action) :
    (action.run s).2.IsConnected := by
  cases action with
  | begin name l o before => exact connected.begin name l o before
  | ask name request => exact connected.ask name request
  | drop name =>
    refine connected.update name none (s.unit?_drop name) ?_
    rintro _ ⟨⟩
  | elsewhere act => exact connected

theorem isConnected_perform {s : Session} (connected : s.IsConnected) (actions : List Action) :
    (perform actions s).2.IsConnected := by
  induction actions generalizing s with
  | nil => exact connected
  | cons action rest ih => exact ih (connected.run action)

theorem perform_spared {actions : List Action} {kept : List Done} {s s' : Session}
    (same : s.Same s') (spares : Spares (perform actions s).1 kept) :
    (perform (kept.map Done.action) s').1 = kept ∧
      (perform actions s).2.Same (perform (kept.map Done.action) s').2 := by
  induction actions generalizing s s' kept with
  | nil =>
    cases spares
    exact ⟨rfl, same⟩
  | cons action rest ih =>
    cases spares with
    | keep _ spares =>
      obtain ⟨answer, same⟩ := action.run_same same
      obtain ⟨answers, same⟩ := ih same spares
      simp only [List.map_cons, perform, ← answer]
      exact ⟨congrArg _ answers, same⟩
    | skip refused spares =>
      have unchanged := action.run_refused s refused
      exact ih ⟨unchanged.store.trans same.store, unchanged.units.trans same.units⟩ spares

/-- A call meets the errors of its stages in order, and as long as it meets one of them it changes
nothing. So all the answers and all that is left are those of the run without such calls. -/
theorem early_errors_spare (start : Store) (actions : List Action) :
    (∀ name u, (perform actions (.ofStore start)).2.unit? name = some u →
      ∀ call : Call, call.AnswersInOrder u (perform actions (.ofStore start)).2.world) ∧
    ∀ kept, Spares (perform actions (.ofStore start)).1 kept →
      (perform (kept.map Done.action) (.ofStore start)).1 = kept ∧
        (perform actions (.ofStore start)).2.Same
          (perform (kept.map Done.action) (.ofStore start)).2 := by
  constructor
  · intro name u found call
    have empty : (Session.ofStore start).IsConnected := by
      intro name u found
      simp [ofStore, unit?] at found
    exact call.answersInOrder _ (isConnected_perform empty actions name u found)
  · intro kept spares
    exact perform_spared (.refl _) spares

/-- A column that is not there, and after the commit a unit that is not open. -/
def interrupted : List Action :=
  [.begin "a" (.memory emptyTables) .default none,
    .ask "a" (.call (.create entryRecord ⟨1, none, .newYear2024⟩)),
    .ask "a" (.call (.getAll entryRecord (some (.compareWith "COLOUR" .eq .null)))),
    .ask "a" .commit,
    .ask "a" (.call (.delete entryRecord (.compareWith "ID" .eq .null)))]

def uninterrupted : List Action :=
  [.begin "a" (.memory emptyTables) .default none,
    .ask "a" (.call (.create entryRecord ⟨1, none, .newYear2024⟩)),
    .ask "a" .commit]

theorem early_errors_spare_interrupted :
    ∃ kept u, Spares (perform interrupted (.ofStore (.empty []))).1 kept ∧
      kept.map Done.action = uninterrupted ∧
      (perform uninterrupted (.ofStore (.empty []))).1 = kept ∧
      (perform interrupted (.ofStore (.empty []))).2.unit? "a" = some u ∧ u.state = .committed ∧
      ∀ call : Call,
        call.AnswersInOrder u (perform interrupted (.ofStore (.empty []))).2.world := by
  obtain ⟨answers, spared⟩ := early_errors_spare (.empty []) interrupted
  have ran : (perform interrupted (.ofStore (.empty []))).1.map Done.isRefused
        = [false, false, true, false, true] ∧
      ((perform interrupted (.ofStore (.empty []))).2.unit? "a").map UnitOfWork.state
        = some .committed := by decide +kernel
  obtain ⟨refused, committed⟩ := ran
  obtain ⟨u, found, state⟩ := Option.map_eq_some_iff.mp committed
  simp only [interrupted, perform, List.map_cons, List.cons.injEq] at refused
  obtain ⟨-, -, unknown, -, closed, -⟩ := refused
  obtain ⟨kept, spares, actions⟩ : ∃ kept,
      Spares (perform interrupted (.ofStore (.empty []))).1 kept ∧
        kept.map Done.action = uninterrupted :=
    ⟨_, .keep _ (.keep _ (.skip unknown (.keep _ (.skip closed .nil)))), rfl⟩
  refine ⟨kept, u, spares, actions, ?_, found, state, answers "a" u found⟩
  rw [← actions]
  exact (spared kept spares).1

end RecordStore
