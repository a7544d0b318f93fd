import RecordStore.Proofs.Sql.Objections
import RecordStore.Proofs.Store.Refusals
import RecordStore.Proofs.Store.Transactions

/-!
How a text about rows can end. Locks and layouts come out the same for every text of its kind
that ends the same way, and a text that fails is vetted, waits for a lock, meets a constraint or
is refused by the medium.
-/
namespace RecordStore

open Sql

namespace Store

/-- What is known of a text about rows before it is run: the layout of its table, and whether it
keeps a journal of its own. -/
structure Vetted where
  layout : TableLayout
  journaled : Bool

/-- A text about rows may be refused for what it says. Else it has a table to work on. -/
def vet (s : Store) (c : Connection) (sql : String) (given : Nat) : Except StoreError Vetted :=
  match Command.read (scan sql) with
  | .error e => .error (SyntaxError.toStoreError sql e)
  | .ok command =>
    match command.table? with
    | none => .error (.failed .nothingToRun)
    | some name =>
      match (s.visible c).table? name with
      | none => .error (.failed (.noSuchTable name))
      | some t => do
        command.checkNames sql t.layout
        let needed := (parameterMarkers (scan sql)).length
        if given ≠ needed then throw (.parameterCount given needed)
        return ⟨t.layout, command.isJournaled c.enforced (s.visible c) t.layout⟩

theorem vet_emptied (s : Store) (c : Connection) (sql : String) (given : Nat) :
    s.emptied.vet c.emptied sql given = s.vet c sql given := by
  rw [vet, vet, visible_emptied]
  cases Command.read (scan sql) with
  | error e => rfl
  | ok command =>
    dsimp only
    cases command.table? with
    | none => rfl
    | some name =>
      dsimp only
      rw [Tables.table?_emptied]
      cases (s.visible c).table? name with
      | none => rfl
      | some t =>
        simp only [Option.map_some, Command.isJournaled_emptied]
        rfl

end Store

/-- The code that the engine gives to a failure of its own. -/
def StoreError.code? : StoreError → Option FailureCode
  | .failed cause | .located cause _ _ => some cause.code
  | _ => none

def StoreError.IsGeneral (e : StoreError) : Prop := e.code? = some .general

/-- The table does not have a column that the text names. -/
def StoreError.MissesColumn : StoreError → Prop
  | .failed (.noSuchColumn _) | .failed (.noColumnNamed _ _) => True
  | .located (.noSuchColumn _) _ _ => True
  | _ => False

theorem StoreError.MissesColumn.isGeneral {e : StoreError} (misses : e.MissesColumn) :
    e.IsGeneral := by
  unfold MissesColumn at misses
  split at misses
  · rfl
  · rfl
  · rfl
  · cases misses

theorem misses_checkFilter (sql : String) (t : TableLayout) (filter : Option Condition) :
    FailsOnly StoreError.MissesColumn (Command.checkFilter sql t filter) := by
  unfold Command.checkFilter
  split
  · exact .ok ()
  · exact .error trivial

theorem misses_checkNames (sql : String) (t : TableLayout) (command : Command) :
    FailsOnly StoreError.MissesColumn (command.checkNames sql t) := by
  cases command with
  | select columns name filter =>
    refine FailsOnly.bind ?_ fun _ => misses_checkFilter sql t filter
    induction columns.getD [] with
    | nil => exact .ok ()
    | cons column rest ih =>
      refine FailsOnly.bind ?_ fun _ => ih
      unfold Command.checkColumn
      split
      · exact .ok ()
      · exact .error trivial
  | insert name columns values =>
    simp only [Command.checkNames]
    split
    · exact .error trivial
    · exact .ok ()
  | update name assignments filter =>
    simp only [Command.checkNames]
    split
    · exact .error trivial
    · exact misses_checkFilter sql t filter
  | delete name filter => exact misses_checkFilter sql t filter
  | begin | commit | rollback | limitPages | nothing => exact .ok ()

theorem general_checkNames (sql : String) (t : TableLayout) (command : Command) :
    FailsOnly StoreError.IsGeneral (command.checkNames sql t) :=
  (misses_checkNames sql t command).mono fun _ misses => misses.isGeneral

/-- With as many parameters as it asks for, a text is only refused for what it says. -/
theorem Store.general_vet {sql : String} {given : Nat} (about : IsAboutRows sql)
    (counted : (parameterMarkers (scan sql)).length = given) (s : Store) (c : Connection) :
    FailsOnly StoreError.IsGeneral (s.vet c sql given) := by
  unfold vet
  split
  · rename_i e read
    have general := (objects_read _).of_error e read
    refine .error ?_
    unfold SyntaxError.toStoreError
    split
    · exact congrArg some general
    · exact congrArg some general
  · rename_i command read
    have named := about.table? read
    split
    · rename_i unnamed
      rw [unnamed] at named
      cases named
    · split
      · exact .error rfl
      · rename_i t _
        refine (general_checkNames sql t.layout command).bind fun _ => ?_
        dsimp only
        rw [if_neg (not_not.mpr counted.symm)]
        exact .ok _

/-! ## Texts about rows -/

namespace Failure

def isRefusal : Failure → Bool
  | keyMismatch | danglingReference | missingValue _ _ | duplicateKey _ _ => true
  | _ => false

end Failure

/-- The statement has come as far as to change rows. -/
def StoreError.isRefusal : StoreError → Bool
  | .failed cause => cause.isRefusal
  | _ => false

/-- Why the medium does not take what the statement comes to. -/
def StoreError.ofMedium? : StoreError → Option MediumError
  | .failed (.medium e) => some e
  | _ => none

namespace StoreError.IsGeneral

variable {e : StoreError}

theorem isRefusal (general : e.IsGeneral) : e.isRefusal = false := by
  cases e with
  | failed cause =>
    cases cause with
    | keyMismatch | danglingReference | missingValue | duplicateKey => cases general
    | _ => rfl
  | _ => rfl

theorem ofMedium? (general : e.IsGeneral) : e.ofMedium? = none := by
  cases e with
  | failed cause =>
    cases cause with
    | medium m => cases m <;> cases general
    | _ => rfl
  | _ => rfl

end StoreError.IsGeneral

namespace TableLayout.Refuses

variable {l : TableLayout} {f : Failure}

theorem isRefusal (refuses : l.Refuses f) : f.isRefusal = true := by
  cases refuses <;> rfl

theorem ofMedium? (refuses : l.Refuses f) : (StoreError.failed f).ofMedium? = none := by
  cases refuses <;> rfl

theorem code_ne (refuses : l.Refuses f) : f.code ≠ .busy ∧ f.code ≠ .general := by
  cases refuses <;> exact ⟨nofun, nofun⟩

theorem code_ne_medium (refuses : l.Refuses f) (e : MediumError) :
    f.code ≠ (Failure.medium e).code := by
  cases refuses <;> cases e <;> exact nofun

end TableLayout.Refuses

namespace Store

variable {s : Store} {id : Nat} {c : Connection} {sql : String} {parameters : List Value}
  {given : Nat}

/-- What a text about rows can fail with. -/
inductive Fails (s : Store) (c : Connection) (sql : String) (given : Nat) : StoreError → Prop
  | objection {e : StoreError} : s.vet c sql given = .error e → Fails s c sql given e
  | locked : Fails s c sql given (.failed .locked)
  | refused {v : Vetted} {f : Failure} : s.vet c sql given = .ok v → v.layout.Refuses f →
      Fails s c sql given (.failed f)
  | medium {v : Vetted} (e : MediumError) : s.vet c sql given = .ok v →
      Fails s c sql given (.failed (.medium e))

def isJournaled (s : Store) (c : Connection) (sql : String) (given : Nat) : Bool :=
  match s.vet c sql given with
  | .ok v => v.journaled
  | .error _ => false

theorem isJournaled_of_vet {v : Vetted} (vetted : s.vet c sql given = .ok v) :
    s.isJournaled c sql given = v.journaled := by rw [isJournaled, vetted]

/-- The store after a change that has failed. -/
def afterFailure (s : Store) (id : Nat) (c : Connection) (journaled : Bool) (e : StoreError) :
    Store :=
  match e.ofMedium? with
  | some m => s.refused id c (journaled && m == .full)
  | none => if e.isRefusal then s.written id c false else s.putConnection id c

theorem afterFailure_passive {e : StoreError} (passive : e.isRefusal = false)
    (unasked : e.ofMedium? = none) (journaled : Bool) :
    s.afterFailure id c journaled e = s.putConnection id c := by
  rw [afterFailure, unasked, passive]
  rfl

theorem afterFailure_refused {l : TableLayout} {f : Failure} (refuses : l.Refuses f)
    (journaled : Bool) :
    s.afterFailure id c journaled (.failed f) = s.written id c false := by
  rw [afterFailure, refuses.ofMedium?, StoreError.isRefusal, refuses.isRefusal]
  rfl

theorem written_putConnection (s : Store) (id : Nat) (c d : Connection) (done : Bool) :
    (s.putConnection id d).written id c done = s.written id c done := by
  have tables : ∀ ts, ((s.putConnection id d).putTables c.file ts).putConnection id c
      = (s.putTables c.file ts).putConnection id c :=
    fun ts => putConnection_putConnection (s.putTables c.file ts) id d c
  simp only [written, visible_putConnection, putConnection_putConnection, tables]

theorem refused_putConnection (s : Store) (id : Nat) (c d : Connection) (alone : Bool) :
    (s.putConnection id d).refused id c alone = s.refused id c alone := by
  simp only [refused, written_putConnection, putConnection_putConnection]

/-- A text about rows fails before it is run, or its command is run on the table it names. -/
theorem run_cases (about : IsAboutRows sql) (conn : s.connection? id = some c)
    (parameters : List Value) :
    (∃ e knows, s.run id sql parameters
        = (.error e, s.putConnection id { c with knowsTables := knows }) ∧
      (s.vet c sql parameters.length = .error e ∨ e = .failed .locked)) ∨
    ∃ command name t, Command.read (scan sql) = .ok command ∧ command.table? = some name ∧
      (s.visible c).table? name = some t ∧
      s.vet c sql parameters.length
        = .ok ⟨t.layout, command.isJournaled c.enforced (s.visible c) t.layout⟩ ∧
      s.run id sql parameters
        = asStoreError ((s.putConnection id { c with knowsTables := true }).step id
            { c with knowsTables := true } command parameters) := by
  cases read : Command.read (scan sql) with
  | error e =>
    refine .inl ⟨SyntaxError.toStoreError sql e, c.knowsTables, ?_, .inl ?_⟩
    · simp only [run, conn, prepare, read]
    · simp only [vet, read]
  | ok command =>
    obtain ⟨name, table⟩ := Option.isSome_iff_exists.mp (about.table? read)
    cases blocked : !c.knowsTables && !s.mayRead id c with
    | true =>
      refine .inl ⟨_, c.knowsTables, ?_, .inr rfl⟩
      simp only [run, conn, prepare, read, table, blocked, if_true]
    | false =>
      cases found : (s.visible c).table? name with
      | none =>
        have known : (s.visible { c with knowsTables := true }).table? name = none := found
        refine .inl ⟨.failed (.noSuchTable name), true, ?_, .inl ?_⟩
        · simp [run, conn, prepare, read, table, blocked, known]
        · simp only [vet, read, table, found]
      | some t =>
        have known : (s.visible { c with knowsTables := true }).table? name = some t := found
        cases names : command.checkNames sql t.layout with
        | error e =>
          refine .inl ⟨e, true, ?_, .inl ?_⟩
          · simp [run, conn, prepare, read, table, blocked, known, names, Except.map]
          · simp only [vet, read, table, found, names]
            rfl
        | ok =>
          by_cases count : parameters.length = (parameterMarkers (scan sql)).length
          · refine .inr ⟨command, name, t, rfl, table, found, ?_,
              run_of_command conn read table blocked found names count⟩
            simp only [vet, read, table, found, names, ok_bind, count, ne_eq, not_true, if_false]
            rfl
          · refine .inl ⟨.parameterCount parameters.length (parameterMarkers (scan sql)).length,
              true, ?_, .inl ?_⟩
            · simp [run, conn, prepare, read, table, blocked, known, names, count, Except.map]
            · simp only [vet, read, table, found, names, ok_bind, ne_eq, count, not_false_eq_true,
                if_true]
              rfl

/-- A change that is run, or refused. What remains without the rows is told by the outcome. -/
theorem run_change (conn : s.connection? id = some c) (named : (s.visible c).AreNamed)
    (change : IsChange sql) {parameters : List Value}
    (counted : (parameterMarkers (scan sql)).length = parameters.length) :
    (∃ count r, s.run id sql parameters = (.ok (.done count), r) ∧
      r.emptied = s.emptied.written id c.emptied true) ∨
    ∃ e r, s.run id sql parameters = (.error e, r) ∧ s.Fails c sql parameters.length e ∧
      r.emptied
        = s.emptied.afterFailure id c.emptied (s.isJournaled c sql parameters.length) e := by
  have about := change.isAboutRows
  rcases run_cases about conn parameters with
    ⟨e, knows, ran, reason⟩ | ⟨command, name, t, read, table, found, vetted, ran⟩
  · right
    have back : (s.putConnection id { c with knowsTables := knows }).emptied
        = s.emptied.putConnection id c.emptied := emptied_putConnection ..
    rcases reason with vetted | rfl
    · have general := (general_vet about counted s c).of_error e vetted
      exact ⟨e, _, ran, .objection vetted,
        by rw [back, afterFailure_passive general.isRefusal general.ofMedium?]⟩
    · exact ⟨_, _, ran, .locked, by rw [back, afterFailure_passive rfl rfl]⟩
  · have back : (s.putConnection id { c with knowsTables := true }).emptied
        = s.emptied.putConnection id c.emptied := emptied_putConnection ..
    have named' : ((s.putConnection id { c with knowsTables := true }).visible
        { c with knowsTables := true }).AreNamed := named
    have found' : ((s.putConnection id { c with knowsTables := true }).visible
        { c with knowsTables := true }).table? name = some t := found
    have steps : Changes _ id _ _ (command.isJournaled c.enforced (s.visible c) t.layout) _ :=
      changes_step named' (change.changesRows read) table found' parameters
    have write : ∀ done, (s.putConnection id { c with knowsTables := true }).emptied.written id
        c.emptied done = s.emptied.written id c.emptied done := by
      intro done
      rw [back, written_putConnection]
    rw [ran]
    generalize Store.step _ _ _ _ _ = stepped at steps
    cases steps with
    | locked left =>
      refine .inr ⟨_, _, rfl, .locked, left.trans ?_⟩
      rw [back, afterFailure_passive rfl rfl]
      exact putConnection_putConnection ..
    | done count left => exact .inl ⟨count, _, rfl, left.trans (write true)⟩
    | failed refuses left =>
      refine .inr ⟨_, _, rfl, .refused vetted refuses, left.trans ((write false).trans ?_)⟩
      rw [afterFailure_refused refuses]
    | refused e left =>
      refine .inr ⟨_, _, rfl, .medium e vetted, left.trans ?_⟩
      rw [isJournaled_of_vet vetted, back]
      exact refused_putConnection ..

theorem step_select (s : Store) (id : Nat) {columns : Option (List ColumnName)} {name : String}
    {filter : Option Condition} {t : Table} (found : (s.visible c).table? name = some t)
    (parameters : List Value) :
    s.step id c (.select columns name filter) parameters = (.error .locked, s) ∨
      ∃ names rows, s.step id c (.select columns name filter) parameters
        = (.ok (.rows names rows), s.putConnection id (c.locked .shared)) := by
  simp only [step, found, readRows]
  split
  · exact .inl rfl
  · cases columns with
    | none => exact .inr ⟨_, _, rfl⟩
    | some names => exact .inr ⟨_, _, rfl⟩

/-- A SELECT that is run takes a lock for reading, and one that fails takes none. -/
theorem run_select (conn : s.connection? id = some c) {rest : List Char}
    (text : sql.toList = "SELECT".toList ++ ' ' :: rest) (parameters : List Value) :
    (∃ columns rows r, s.run id sql parameters = (.ok (.rows columns rows), r) ∧
      r.emptied = s.emptied.putConnection id (c.emptied.locked .shared)) ∨
    ∃ e r, s.run id sql parameters = (.error e, r) ∧ s.Fails c sql parameters.length e ∧
      r.emptied = s.emptied.putConnection id c.emptied := by
  have about : IsAboutRows sql := ⟨"SELECT", by decide, rest, text⟩
  rcases run_cases about conn parameters with
    ⟨e, knows, ran, reason⟩ | ⟨command, name, t, read, table, found, vetted, ran⟩
  · have back : (s.putConnection id { c with knowsTables := knows }).emptied
        = s.emptied.putConnection id c.emptied := emptied_putConnection ..
    rcases reason with vetted | rfl
    · exact .inr ⟨e, _, ran, .objection vetted, back⟩
    · exact .inr ⟨_, _, ran, .locked, back⟩
  · obtain ⟨columns, name, filter, rfl⟩ := select_of_read text read
    cases Option.some.inj table
    have found' : ((s.putConnection id { c with knowsTables := true }).visible
        { c with knowsTables := true }).table? name = some t := found
    rcases step_select _ id found' parameters with
      stepped | ⟨names, rows, stepped⟩
    · rw [ran, stepped]
      exact .inr ⟨_, _, rfl, .locked, emptied_putConnection ..⟩
    · rw [ran, stepped, putConnection_putConnection]
      refine .inl ⟨names, rows, _, rfl, ?_⟩
      rw [emptied_putConnection, Connection.emptied_locked]
      rfl

end Store

end RecordStore
