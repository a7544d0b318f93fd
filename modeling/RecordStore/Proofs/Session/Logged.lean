import RecordStore.Proofs.Session.Alike
import RecordStore.Proofs.Session.EarlyErrors

/-!
Logs tell no data. Two runs that differ in constants, models and rows only, and whose steps end
alike one by one, log the same events, but for what is told of a statement that failed.
-/
namespace RecordStore

variable {inline : Prop}

/-! ## Ends -/

namespace World.Alike

variable {w w' : World}

theorem next {β : Type} {x y : β × Store} (worlds : w.Alike inline w') (answers : x.1 = y.1)
    (stores : x.2.emptied = y.2.emptied) (named : x.2.IsNamed) :
    ∃ answer s s', x = (answer, s) ∧ y = (answer, s') ∧
      World.Alike inline { w with store := s } { w' with store := s' } :=
  ⟨x.1, x.2, y.2, rfl, Prod.ext answers.symm rfl, worlds.withStore stores named⟩

/-- What does the same on a store without its rows does the same where only rows differ. -/
theorem act {β : Type} {act : Store → β × Store}
    (blind : ∀ s, act s.emptied = ((act s).1, (act s).2.emptied))
    (keeps : ∀ s, s.IsNamed → (act s).2.IsNamed) (worlds : w.Alike inline w') :
    ∃ answer s s', act w.store = (answer, s) ∧ act w'.store = (answer, s') ∧
      World.Alike inline { w with store := s } { w' with store := s' } := by
  have both : ((act w.store).1, (act w.store).2.emptied)
      = ((act w'.store).1, (act w'.store).2.emptied) := by
    rw [← blind, ← blind, worlds.store]
  obtain ⟨answers, stores⟩ := Prod.mk.inj both
  exact worlds.next answers stores (keeps _ worlds.named)

theorem close (worlds : w.Alike inline w') (n : Nat) :
    World.Alike inline { w with store := w.store.close n } { w' with store := w'.store.close n } :=
  worlds.withStore (by rw [Store.emptied_close, worlds.store, Store.emptied_close])
    (Store.invariant_isNamed.close _ n worlds.named)

theorem runRollback (worlds : w.Alike inline w') (n : Nat) :
    ∃ answer s s', w.store.runCommand n .rollback = (answer, s) ∧
      w'.store.runCommand n .rollback = (answer, s') ∧
      World.Alike inline { w with store := s } { w' with store := s' } :=
  worlds.act (fun s => s.runCommand_rollback_emptied n)
    fun _ named => Store.invariant_isNamed.runCommand named n .rollback

theorem rollbackQuietly (worlds : w.Alike inline w') (n : Nat) :
    (UnitOfWork.rollbackQuietly w n).Alike inline (UnitOfWork.rollbackQuietly w' n) := by
  have held : w.store.inTransaction n = w'.store.inTransaction n := by
    rw [← Store.inTransaction_emptied, worlds.store, Store.inTransaction_emptied]
  obtain ⟨answer, s, s', ran, ran', ended⟩ := worlds.runRollback n
  rw [UnitOfWork.rollbackQuietly, UnitOfWork.rollbackQuietly, held, ran, ran']
  split
  · cases answer with
    | ok _ => exact ended
    | error e => exact ended.log _
  · exact worlds

/-- Rows decide whether a commit goes well, so the two can only be compared by how they end. -/
theorem runCommit {R : Unit → Unit → Prop} {n : Nat} (worlds : w.Alike inline w')
    (ends : EndsAlike R StoreError.SameCode (w.store.runCommand n .commit).1
      (w'.store.runCommand n .commit).1) :
    ∃ answer s s', w.store.runCommand n .commit = (answer, s) ∧
      w'.store.runCommand n .commit = (answer, s') ∧
      World.Alike inline { w with store := s } { w' with store := s' } := by
  have answers : (w.store.runCommand n .commit).1 = (w'.store.runCommand n .commit).1 := by
    have unique := @Store.commit_error_unique w.store w'.store n
    revert ends unique
    generalize (w.store.runCommand n .commit).1 = first
    generalize (w'.store.runCommand n .commit).1 = second
    rintro (- | code) unique
    · rfl
    · rw [unique rfl rfl code]
  exact worlds.next answers (Store.commit_leaves worlds.store answers)
    (Store.invariant_isNamed.runCommand worlds.named n .commit)

end World.Alike

namespace UnitOfWork

variable {u u' : UnitOfWork} {w w' : World} {n : Nat} {R : Unit → Unit → Prop}

theorem Alike.ended (units : u.Alike inline u') (state : UnitState)
    {failure failure' : Option FailedStatement}
    (failures : Option.Rel (FailedStatement.ToldAlike inline) failure failure') :
    UnitOfWork.Alike inline { u with state := state, failure := failure }
      { u' with state := state, failure := failure' } :=
  ⟨units.connection, rfl, failures, units.filterMode, units.admits⟩

theorem alike_rollback (units : u.Alike inline u') (worlds : w.Alike inline w') :
    (u.rollback w).Alike inline (u'.rollback w') := by
  unfold rollback
  rw [units.openConnection?]
  cases u.openConnection? with
  | none => exact ⟨units, worlds⟩
  | some n =>
    obtain ⟨answer, s, s', ran, ran', ended⟩ := worlds.runRollback n
    dsimp only
    rw [ran, ran']
    cases answer with
    | ok _ => exact ⟨units.ended _ units.failure, ended.log _⟩
    | error e => exact ⟨units.ended _ units.failure, ended.log _⟩

theorem ends_of_commit (opened : u.openConnection? = some n) (opened' : u'.openConnection? = some n)
    (clean : u.failure = none) (clean' : u'.failure = none)
    (ends : EndsAlike R RepositoryError.Alike (u.commit w).answer (u'.commit w').answer) :
    EndsAlike R StoreError.SameCode (w.store.runCommand n .commit).1
      (w'.store.runCommand n .commit).1 := by
  rw [commit, commit, opened, opened', clean, clean'] at ends
  revert ends
  dsimp only
  rcases w.store.runCommand n .commit with ⟨_ | _, s⟩
  · rcases w'.store.runCommand n .commit with ⟨_ | _, s'⟩
    · rintro (- | alike)
      exact .error alike.code
    · rintro ⟨⟩
  · rcases w'.store.runCommand n .commit with ⟨_ | _, s'⟩
    · rintro ⟨⟩
    · rintro (related | -)
      exact .ok related

theorem alike_commit (units : u.Alike inline u') (worlds : w.Alike inline w')
    (ends : EndsAlike R RepositoryError.Alike (u.commit w).answer (u'.commit w').answer) :
    (u.commit w).Alike inline (u'.commit w') := by
  have openings := units.openConnection?
  cases opened : u.openConnection? with
  | none =>
    rw [commit, commit, openings, opened]
    exact ⟨units, worlds⟩
  | some n =>
    rw [opened] at openings
    rcases eq_none_or_some_of_rel units.failure with ⟨clean, clean'⟩ | ⟨f, f', held, held', told⟩
    · obtain ⟨answer, s, s', ran, ran', ended⟩ :=
        worlds.runCommit (ends_of_commit opened openings clean clean' ends)
      rw [commit, commit, opened, openings, clean, clean']
      dsimp only
      rw [ran, ran']
      cases answer with
      | ok _ => exact ⟨units.ended _ .none, ended.log _⟩
      | error e => exact ⟨units.ended _ .none, (ended.rollbackQuietly n).log _⟩
    · rw [commit, commit, opened, openings, held, held']
      dsimp only
      rw [told.operation, told.entity]
      exact ⟨units.ended _ .none, (worlds.rollbackQuietly n).log _⟩

theorem alike_dispose (units : u.Alike inline u') (worlds : w.Alike inline w') :
    (u.dispose w).1.Alike inline (u'.dispose w').1 ∧
      (u.dispose w).2.Alike inline (u'.dispose w').2 := by
  unfold dispose
  rw [← units.connection, ← units.state]
  cases u.connection with
  | none => exact ⟨units, worlds⟩
  | some n =>
    have ended : World.Alike inline (if u.state = .ongoing then rollbackQuietly w n else w)
        (if u.state = .ongoing then rollbackQuietly w' n else w') := by
      split
      · exact worlds.rollbackQuietly n
      · exact worlds
    exact ⟨⟨rfl, rfl, units.failure, units.filterMode, units.admits⟩, (ended.close n).log _⟩

end UnitOfWork

/-! ## Beginnings -/

namespace World.Alike

variable {w w' : World} {l l' : Location}

theorem openDatabase (worlds : w.Alike inline w') (same : l.emptied = l'.emptied)
    (brings : l.Brings Tables.AreNamed) (o : StoreOptions) :
    (w.openDatabase l o).1 = (w'.openDatabase l' o).1 ∧
      (w.openDatabase l o).2.Alike inline (w'.openDatabase l' o).2 := by
  have placed : l.placement = l'.placement := by
    rw [← l.emptied_placement, same, l'.emptied_placement]
  have connects := World.connect_emptied w.store l o
  rw [worlds.store, same, World.connect_emptied] at connects
  have named := Store.invariant_isNamed.openDatabase worlds.named brings o
  have started := worlds.log (.openStarted l.placement)
  revert connects named
  unfold World.openDatabase
  rw [← placed]
  dsimp only [World.store_log]
  rcases World.connect w.store l o with e | ⟨n, s⟩
  · rcases World.connect w'.store l' o with e' | ⟨n', s'⟩
    · rintro ⟨⟩ _
      exact ⟨rfl, started.log _⟩
    · rintro ⟨⟩
  · rcases World.connect w'.store l' o with e' | ⟨n', s'⟩
    · rintro ⟨⟩
    · intro connects named
      obtain ⟨numbers, stores⟩ := Prod.mk.inj (Except.ok.inj connects)
      dsimp only at numbers stores named ⊢
      cases numbers
      split
      · rename_i great
        rw [if_pos great] at named
        refine ⟨rfl, started.withStore ?_ named⟩
        rw [Store.emptied_close, Store.emptied_close, stores]
      · rename_i timely
        rw [if_neg timely] at named
        exact ⟨rfl, (started.withStore stores.symm named).log _⟩

theorem beginOn (worlds : w.Alike inline w') (n : Nat) {o : StoreOptions}
    (admits : o.filterMode = .inline → inline) :
    EndsAlike (UnitOfWork.Alike inline) Eq (UnitOfWork.begin w n o).1 (UnitOfWork.begin w' n o).1 ∧
      (UnitOfWork.begin w n o).2.Alike inline (UnitOfWork.begin w' n o).2 := by
  obtain ⟨answer, s, s', ran, ran', begun⟩ := worlds.act
    (fun s => s.runCommand_begin_emptied n o.transactionMode)
    fun _ named => Store.invariant_isNamed.runCommand named n (.begin o.transactionMode)
  rw [UnitOfWork.begin, UnitOfWork.begin, ran, ran']
  cases answer with
  | ok _ => exact ⟨.ok ⟨rfl, rfl, .none, rfl, admits⟩, begun.log _⟩
  | error e => exact ⟨.error rfl, (begun.close n).log _⟩

theorem beginUnit (worlds : w.Alike inline w') (same : l.emptied = l'.emptied)
    (brings : l.Brings Tables.AreNamed) {o : StoreOptions}
    (admits : o.filterMode = .inline → inline) :
    EndsAlike (UnitOfWork.Alike inline) Eq (w.beginUnit l o none).1 (w'.beginUnit l' o none).1 ∧
      (w.beginUnit l o none).2.Alike inline (w'.beginUnit l' o none).2 := by
  obtain ⟨answers, opened⟩ := worlds.openDatabase same brings o
  rw [World.beginUnit, World.beginUnit]
  revert answers opened
  rcases w.openDatabase l o with ⟨answer, v⟩
  rcases w'.openDatabase l' o with ⟨answer', v'⟩
  rintro ⟨⟩ opened
  cases answer with
  | error e => exact ⟨.error rfl, opened⟩
  | ok n =>
    obtain ⟨answers, begun⟩ := opened.beginOn n admits
    exact ⟨answers.mapError OpeningError.unit, begun⟩

end World.Alike

/-! ## Sessions -/

/-- The same units under the same names, but for what they were told, in worlds that differ in
their rows. -/
structure Session.Alike (inline : Prop) (s s' : Session) : Prop where
  units : ∀ name, Option.Rel (UnitOfWork.Alike inline) (s.unit? name) (s'.unit? name)
  world : s.world.Alike inline s'.world

namespace Session

variable {s s' : Session}

/-- What is under one name is replaced, and the world goes on. -/
theorem Alike.update {t t' : Session} (alike : s.Alike inline s') {name : String}
    {unit unit' : Option UnitOfWork} (units : t.unit? = Function.update s.unit? name unit)
    (units' : t'.unit? = Function.update s'.unit? name unit')
    (replaced : Option.Rel (UnitOfWork.Alike inline) unit unit')
    (world : t.world.Alike inline t'.world) : t.Alike inline t' := by
  refine ⟨fun other => ?_, world⟩
  rw [units, units']
  by_cases same : other = name
  · subst same
    rw [Function.update_self, Function.update_self]
    exact replaced
  · rw [Function.update_of_ne same, Function.update_of_ne same]
    exact alike.units other

theorem Alike.put (alike : s.Alike inline s') (name : String) {u u' : UnitOfWork} {w w' : World}
    (units : u.Alike inline u') (worlds : w.Alike inline w') :
    (s.put name u w).Alike inline (s'.put name u' w') :=
  alike.update (s.unit?_put name u w) (s'.unit?_put name u' w') (.some units) worlds

theorem Alike.drop (alike : s.Alike inline s') (name : String) :
    (s.drop name).2.Alike inline (s'.drop name).2 := by
  refine alike.update (s.unit?_drop name) (s'.unit?_drop name) .none ?_
  rw [Session.drop, Session.drop]
  rcases eq_none_or_some_of_rel (alike.units name) with ⟨gone, gone'⟩ | ⟨u, u', held, held', units⟩
  · rw [gone, gone']
    exact alike.world
  · rw [held, held']
    exact (UnitOfWork.alike_dispose units alike.world).2

theorem Alike.begin (alike : s.Alike inline s') (name : String) {l l' : Location}
    (same : l.emptied = l'.emptied) (brings : l.Brings Tables.AreNamed) {o : StoreOptions}
    (admits : o.filterMode = .inline → inline) :
    (s.begin name l o none).2.Alike inline (s'.begin name l' o none).2 := by
  obtain ⟨answers, worlds⟩ := alike.world.beginUnit same brings admits
  rw [Session.begin, Session.begin]
  revert answers worlds
  rcases s.world.beginUnit l o none with ⟨answer, w⟩
  rcases s'.world.beginUnit l' o none with ⟨answer', w'⟩
  intro answers worlds
  dsimp only at answers
  have begun : Session.Alike inline { s with world := w } { s' with world := w' } :=
    ⟨alike.units, worlds⟩
  cases answers with
  | error _ => exact begun
  | ok units => exact (begun.drop name).put name units (begun.drop name).world

end Session

/-! ## Runs -/

/-- How a step ends: with so many rows, or with an error of a kind, under a code of the engine. -/
abbrev Verdict := Except (ErrorKind × Option FailureCode) Nat

def verdict (outcome : Except RepositoryError Nat) : Verdict :=
  outcome.mapError fun e => (e.kind, e.code?)

theorem endsAlike_of_verdict {x y : Except RepositoryError Nat} (same : verdict x = verdict y) :
    EndsAlike Eq RepositoryError.Alike x y := by
  cases x with
  | ok rows =>
    cases y with
    | ok rows' => exact .ok (Except.ok.inj same)
    | error e' => cases same
  | error e =>
    cases y with
    | ok rows' => cases same
    | error e' =>
      obtain ⟨kind, code⟩ := Prod.mk.inj (Except.error.inj same)
      exact .error ⟨kind, code⟩

namespace Request

/-- The same request but for models and for the constants of predicates. -/
inductive Alike : Request → Request → Prop
  | call {c d : Call} : c.Alike d → Alike (.call c) (.call d)
  | commit : Alike .commit .commit
  | rollback : Alike .rollback .rollback
  | dispose : Alike .dispose .dispose

def ReadsRows : Request → Prop
  | call c => c.ReadsRows
  | _ => True

def outcome : Request → UnitOfWork → World → Except RepositoryError Nat
  | call c, u, w => c.outcome u w
  | request, u, w => (request.run u w).answer.map fun _ => 0

theorem Alike.run {a b : Request} (alike : a.Alike b) (reads : a.ReadsRows) {u u' : UnitOfWork}
    {w w' : World} (units : u.Alike inline u') (worlds : w.Alike inline w')
    (ends : EndsAlike Eq RepositoryError.Alike (a.outcome u w) (b.outcome u' w')) :
    (a.run u w).Alike inline (b.run u' w') := by
  cases alike with
  | call calls => exact Call.alike_run calls reads units worlds ends
  | commit => exact UnitOfWork.alike_commit units worlds ends.of_map
  | rollback => exact UnitOfWork.alike_rollback units worlds
  | dispose =>
    obtain ⟨unit, world⟩ := UnitOfWork.alike_dispose units worlds
    exact ⟨unit, world⟩

end Request

namespace Action

/-- The same step but for models, for the constants of predicates, and for the rows that are
brought. -/
inductive Alike : Action → Action → Prop
  | begin (name : String) {l l' : Location} (o : StoreOptions) :
      l.emptied = l'.emptied → Alike (.begin name l o none) (.begin name l' o none)
  | ask (name : String) {r r' : Request} : r.Alike r' → Alike (.ask name r) (.ask name r')
  | drop (name : String) : Alike (.drop name) (.drop name)

def BeginsInline : Action → Prop
  | begin _ _ o _ => o.filterMode = .inline
  | _ => False

def ReadsRows : Action → Prop
  | ask _ request => request.ReadsRows
  | _ => True

def verdict? : Action → Session → Option Verdict
  | ask name request, s => (s.unit? name).map fun u => verdict (request.outcome u s.world)
  | _, _ => none

theorem Alike.run {a b : Action} (alike : a.Alike b) {s s' : Session}
    (sessions : s.Alike inline s') (keeps : a.Keeps Tables.AreNamed Store.IsNamed)
    (reads : a.ReadsRows) (admits : a.BeginsInline → inline)
    (verdicts : a.verdict? s = b.verdict? s') : (a.run s).2.Alike inline (b.run s').2 := by
  cases alike with
  | begin name o same => exact sessions.begin name same keeps admits
  | ask name requests =>
    rcases eq_none_or_some_of_rel (sessions.units name) with
      ⟨none, none'⟩ | ⟨u, u', found, found', units⟩
    · rw [run_ask_none none, run_ask_none none']
      exact sessions
    · rw [verdict?, verdict?, found, found'] at verdicts
      have step := requests.run reads units sessions.world
        (endsAlike_of_verdict (Option.some.inj verdicts))
      rw [run_ask_some found, run_ask_some found']
      exact sessions.put name step.unit step.world
  | drop name => exact sessions.drop name

end Action

/-- How the steps of a run end, those that ask a unit. -/
def verdicts : List Action → Session → List (Option Verdict)
  | [], _ => []
  | action :: rest, s => action.verdict? s :: verdicts rest (action.run s).2

theorem Session.Alike.perform {as bs : List Action} (steps : List.Forall₂ Action.Alike as bs)
    {s s' : Session} (alike : s.Alike inline s')
    (keeps : ∀ a ∈ as, a.Keeps Tables.AreNamed Store.IsNamed) (reads : ∀ a ∈ as, a.ReadsRows)
    (admits : ∀ a ∈ as, a.BeginsInline → inline) (same : verdicts as s = verdicts bs s') :
    (RecordStore.perform as s).2.Alike inline (RecordStore.perform bs s').2 := by
  induction steps generalizing s s' with
  | nil => exact alike
  | cons step _ ih =>
    obtain ⟨first, others⟩ := List.cons.inj same
    obtain ⟨keep, keeps⟩ := List.forall_mem_cons.mp keeps
    obtain ⟨read, reads⟩ := List.forall_mem_cons.mp reads
    obtain ⟨known, admits⟩ := List.forall_mem_cons.mp admits
    exact ih (step.run alike keep read known first) keeps reads admits others

/-! ## Rows of entries -/

/-- The engine has no code for a row that has not what a model needs. -/
theorem ResultRow.uncoded_value (row : ResultRow) (name : String) :
    FailsOnly (·.code? = none) (row.value name) := by
  unfold ResultRow.value
  cases row.columns.findIdx? fun c => Schema.sameName c name with
  | none => exact .error rfl
  | some i => exact .ok _

namespace Entry

theorem uncoded_readId (row : ResultRow) : FailsOnly (·.code? = none) (readId row) := by
  refine (row.uncoded_value "ID").bind fun ⟨i, v⟩ => ?_
  cases v with
  | integer id => exact .ok id
  | null | real | text | blob => exact .error rfl

theorem uncoded_readDescription (row : ResultRow) :
    FailsOnly (·.code? = none) (readDescription row) := by
  refine (row.uncoded_value "DESCRIPTION").bind fun ⟨i, v⟩ => ?_
  cases v with
  | null => exact .ok none
  | text s => exact .ok (some s)
  | integer | real | blob => exact .error rfl

theorem uncoded_readDate (row : ResultRow) : FailsOnly (·.code? = none) (readDate row) := by
  refine (row.uncoded_value "DATE").bind fun ⟨i, v⟩ => ?_
  cases v with
  | text s =>
    dsimp only
    cases Date.read s with
    | ok d => exact .ok d
    | error why => exact .error rfl
  | null | integer | real | blob => exact .error rfl

theorem uncoded_ofRow (row : ResultRow) : FailsOnly (·.code? = none) (ofRow row) :=
  (uncoded_readId row).bind fun _ => (uncoded_readDescription row).bind fun _ =>
    (uncoded_readDate row).bind fun _ => .ok _

end Entry

/-! ## Logs -/

/-- The rows of the store, models and the constants of predicates do not reach the log, as long as
each step ends alike. What a failed statement tells is the exception: which of a table's columns
has no value, why a row could not be read, and with inline filters the text that the engine did
not understand. -/
theorem logs_tell_no_data {as bs : List Action} (steps : List.Forall₂ Action.Alike as bs)
    {s s' : Store} (same : s.emptied = s'.emptied) (named : s.IsNamed)
    (keeps : ∀ a ∈ as, a.Keeps Tables.AreNamed Store.IsNamed) (reads : ∀ a ∈ as, a.ReadsRows)
    (ends : verdicts as (.ofStore s) = verdicts bs (.ofStore s')) :
    List.Forall₂ (Event.ToldAlike (∃ a ∈ as, a.BeginsInline))
      (perform as (.ofStore s)).2.world.events (perform bs (.ofStore s')).2.world.events := by
  have start : (Session.ofStore s).Alike (∃ a ∈ as, a.BeginsInline) (.ofStore s') :=
    ⟨fun _ => .none, same, named, rfl, .nil⟩
  have admits : ∀ a ∈ as, a.BeginsInline → ∃ a ∈ as, a.BeginsInline :=
    fun a mem inline => ⟨a, mem, inline⟩
  exact (start.perform steps keeps reads admits ends).world.events

/-- An entry that is created twice and looked up, and then a commit that is refused. -/
def createdTwice (description : String) : List Action :=
  [.begin "a" (.memory emptyTables) .default none,
    .ask "a" (.call (.create entryRecord ⟨1, some description, .newYear2024⟩)),
    .ask "a" (.call (.create entryRecord ⟨1, some description, .newYear2024⟩)),
    .ask "a" (.call (.getAll entryRecord
      (some (.compareWith "DESCRIPTION" .eq (.text description))))),
    .ask "a" .commit,
    .ask "a" .dispose]

theorem logs_tell_no_data_createdTwice :
    verdicts (createdTwice "rent") (.ofStore (.empty []))
        = [none, some (.ok 1), some (.error (.execution, some .primaryKey)), some (.ok 1),
          some (.error (.commitAborted, some .primaryKey)), some (.ok 0)] ∧
      List.Forall₂ (Event.ToldAlike (∃ a ∈ createdTwice "rent", a.BeginsInline))
        (perform (createdTwice "rent") (.ofStore (.empty []))).2.world.events
        (perform (createdTwice "food") (.ofStore (.empty []))).2.world.events := by
  have ends : verdicts (createdTwice "rent") (.ofStore (.empty []))
        = [none, some (.ok 1), some (.error (.execution, some .primaryKey)), some (.ok 1),
          some (.error (.commitAborted, some .primaryKey)), some (.ok 0)] ∧
      verdicts (createdTwice "food") (.ofStore (.empty []))
        = verdicts (createdTwice "rent") (.ofStore (.empty [])) := by decide +kernel
  have steps : List.Forall₂ Action.Alike (createdTwice "rent") (createdTwice "food") :=
    .cons (.begin _ _ rfl) <| .cons (.ask _ (.call (.create _ _ _))) <|
      .cons (.ask _ (.call (.create _ _ _))) <|
      .cons (.ask _ (.call (.getAll _ (.some (.compare rfl rfl rfl))))) <|
      .cons (.ask _ .commit) <| .cons (.ask _ .dispose) .nil
  have named : (Store.empty []).IsNamed := ⟨List.forall_mem_nil _, List.forall_mem_nil _⟩
  have brought : emptyTables.AreNamed := by
    unfold Tables.AreNamed
    decide
  refine ⟨ends.1, logs_tell_no_data steps rfl named ?_ ?_ ends.2.symm⟩
  · simp [createdTwice, Action.Keeps, Location.Brings, brought]
  · simp [createdTwice, Action.ReadsRows, Request.ReadsRows, Call.ReadsRows, entryRecord,
      Entry.uncoded_ofRow]

/-- A table under a keyword, looked up with an inline filter. -/
def misnamedLookup (id : Int64) : List Action :=
  [.begin "a" (.memory emptyTables) { StoreOptions.default with filterMode := .inline } none,
    .ask "a" (.call (.getAll (.plain ⟨"Keyword", some "ORDER", [⟨"ID", .integer⟩]⟩)
      (some (.compareWith "ID" .eq (.integer id)))))]

/-- The text that the engine did not understand is in the log, with its constant. -/
theorem misnamedLookup_tells_constant :
    List.Forall₂ Action.Alike (misnamedLookup 1) (misnamedLookup 2) ∧
      verdicts (misnamedLookup 1) (.ofStore (.empty []))
        = verdicts (misnamedLookup 2) (.ofStore (.empty [])) ∧
      (perform (misnamedLookup 1) (.ofStore (.empty []))).2.world.events
        ≠ (perform (misnamedLookup 2) (.ofStore (.empty []))).2.world.events := by
  refine ⟨.cons (.begin _ _ rfl) (.cons (.ask _ (.call (.getAll _ (.some ?_)))) .nil), ?_, ?_⟩
  · exact .compare rfl rfl rfl
  · decide +kernel
  · decide +kernel

end RecordStore
