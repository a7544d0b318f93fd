import RecordStore.Proofs.Sql.FirstWord
import RecordStore.Proofs.Store.Connections

/-!
Statements of a transaction. They change their own connection and nothing else, and one that
succeeds holds a lock afterwards. Where nobody is in the way it succeeds again with the same
reply, from the same connection and the same committed tables. Only the medium can end the
transaction with a failure.
-/
namespace RecordStore

open Sql

namespace Sql

/-- The statement neither ends the transaction by itself nor changes what the medium takes. -/
def Command.IsPlain : Command → Prop
  | .commit | .rollback | .limitPages _ => False
  | _ => True

def IsPlain (sql : String) : Prop :=
  ∀ command, Command.read (scan sql) = .ok command → command.IsPlain

theorem IsAboutRows.isPlain {sql : String} (about : IsAboutRows sql) : IsPlain sql := by
  intro command read
  have table := about.table? read
  cases command with
  | commit | rollback | limitPages => cases table
  | _ => trivial

end Sql

/-- The medium has failed. -/
def Failure.IsOfMedium : Failure → Prop
  | .medium _ => True
  | _ => False

def StoreError.IsOfMedium : StoreError → Prop
  | .failed cause => cause.IsOfMedium
  | _ => False

theorem Lock.join_ne_none {l m : Lock} (h : m ≠ .none) : l.join m ≠ .none := by
  revert h
  cases l <;> cases m <;> decide

theorem Connection.lock_locked {c : Connection} {l : Lock} (h : l ≠ .none)
    (transaction : c.inTransaction = true) : (c.locked l).lock ≠ .none := by
  rw [locked, if_pos transaction]
  exact Lock.join_ne_none h

namespace Store

def IsQuiet (s : Store) (n file : Nat) : Prop :=
  ∀ l, l ≠ .none → s.othersHold n file l = false

theorem IsQuiet.mayRead {s : Store} {n : Nat} {c : Connection} (quiet : s.IsQuiet n c.file) :
    s.mayRead n c = true := by
  simp [Store.mayRead, quiet .pending (by decide)]

theorem IsQuiet.mayWrite {s : Store} {n : Nat} {c : Connection} (quiet : s.IsQuiet n c.file) :
    s.mayWrite n c = true := by
  simp [Store.mayWrite, quiet .reserved (by decide)]

theorem IsQuiet.mayCommit {s : Store} {n : Nat} {c : Connection} (quiet : s.IsQuiet n c.file) :
    s.mayCommit n c = true := by
  simp [Store.mayCommit, quiet .shared (by decide)]

theorem visible_congr {s s' : Store} {c : Connection}
    (same : s'.committed c.file = s.committed c.file) : s'.visible c = s.visible c := by
  rw [visible, visible, same]

/-- Asked where the connection stands, the store changes it within its transaction, unless the
medium has failed. After a success the connection has a lock, and a quiet store with the same
committed tables would do the same. -/
def Repeats {ε β : Type} (fails : ε → Prop) (stands : Store → Nat → Prop) (c : Connection)
    (ask : Store → Nat → Except ε β × Store) : Prop :=
  ∀ s n, stands s n → ∃ c', (ask s n).2 = s.putConnection n c' ∧ c'.file = c.file ∧
    c'.medium = c.medium ∧
    (c'.inTransaction = true ∨
      c.medium ≠ .reliable ∧ c'.lock = .none ∧ ∃ e, (ask s n).1 = .error e ∧ fails e) ∧
    ∀ b, (ask s n).1 = .ok b → c'.lock ≠ .none ∧
      ∀ s' m, stands s' m → s'.IsQuiet m c.file →
        s'.committed c.file = s.committed c.file → ask s' m = (.ok b, s'.putConnection m c')

section

variable {s : Store} {id : Nat} {c : Connection} {journaled : Bool}
  {change : Work → Except Failure (Work × Nat)} {w : Work} {count : Nat}

theorem write_of_ok (may : s.mayWrite id c = true) (transaction : c.inTransaction = true)
    (changed : change ⟨s.visible c, c.openReferences⟩ = .ok (w, count))
    (takes : c.medium.onWrite (s.committed c.file) w.tables = none) :
    s.write id c journaled change
      = (.ok (.done count), s.putConnection id
          { c.locked .reserved with
            work := some w.tables, openReferences := w.openReferences, changes := count }) := by
  simp [write, complete, may, transaction, changed, takes]

theorem undo_of_transaction (transaction : c.inTransaction = true) (cause : Failure) :
    s.undo id c cause = (.error cause, s.putConnection id
      { c.locked .reserved with changes := 0, work := some (s.visible c) }) := by
  simp [undo, transaction]

/-- A change that fails goes on with the tables as they were. -/
theorem write_of_error {cause : Failure} (may : s.mayWrite id c = true)
    (transaction : c.inTransaction = true)
    (failed : change ⟨s.visible c, c.openReferences⟩ = .error cause) :
    s.write id c journaled change
      = (.error cause, s.putConnection id
          { c.locked .reserved with changes := 0, work := some (s.visible c) }) := by
  simp [write, may, failed, undo_of_transaction transaction]

/-- A medium that refuses a change ends the transaction, or only the statement. -/
theorem write_of_refusal (journaled : Bool) {e : MediumError} (may : s.mayWrite id c = true)
    (transaction : c.inTransaction = true)
    (changed : change ⟨s.visible c, c.openReferences⟩ = .ok (w, count))
    (refuses : c.medium.onWrite (s.committed c.file) w.tables = some e) :
    s.write id c journaled change = (.error (.medium e), s.putConnection id
          { c.locked .reserved with changes := 0, work := some (s.visible c) }) ∨
      s.write id c journaled change
        = (.error (.medium e), s.putConnection id { c.released with changes := 0 }) := by
  have asked : s.write id c journaled change
      = if journaled && e == .full then s.undo id c (.medium e) else s.setBack id c e := by
    simp [write, may, changed, refuses]
  rw [asked, undo_of_transaction transaction, setBack, if_pos transaction]
  split
  · exact .inl rfl
  · exact .inr rfl

end

theorem repeats_write (journaled : Tables → Bool) (change : Work → Except Failure (Work × Nat))
    {c : Connection} (transaction : c.inTransaction = true) :
    Repeats Failure.IsOfMedium (fun _ _ => True) c fun s n =>
      (s.putConnection n c).write n c (journaled (s.visible c)) change := by
  intro s n _
  have file (l : Lock) : (c.locked l).file = c.file := c.locked_file l
  have medium (l : Lock) : (c.locked l).medium = c.medium := c.locked_medium l
  have goes_on (l : Lock) : (c.locked l).inTransaction = true := by simp [transaction]
  by_cases may : s.mayWrite n c = true
  · have may' : (s.putConnection n c).mayWrite n c = true := by simp [may]
    cases changed : change ⟨s.visible c, c.openReferences⟩ with
    | error e =>
      dsimp only
      rw [write_of_error may' transaction changed, putConnection_putConnection]
      exact ⟨_, rfl, file _, medium _, .inl (goes_on _), nofun⟩
    | ok result =>
      obtain ⟨w, count⟩ := result
      dsimp only
      cases takes : c.medium.onWrite (s.committed c.file) w.tables with
      | some e =>
        have unreliable : c.medium ≠ .reliable := by
          intro reliable
          rw [reliable, Medium.onWrite_reliable] at takes
          cases takes
        rcases write_of_refusal (journaled (s.visible c)) may' transaction changed takes with
          undone | back
        · rw [undone, putConnection_putConnection]
          exact ⟨_, rfl, file _, medium _, .inl (goes_on _), nofun⟩
        · rw [back, putConnection_putConnection]
          exact ⟨_, rfl, rfl, rfl, .inr ⟨unreliable, rfl, _, rfl, trivial⟩, nofun⟩
      | none =>
        rw [write_of_ok may' transaction changed takes, putConnection_putConnection]
        refine ⟨_, rfl, file _, medium _, .inl (goes_on _), fun b reply => ?_⟩
        cases reply
        refine ⟨Connection.lock_locked (by decide) transaction, fun s' m _ quiet same => ?_⟩
        have may'' : (s'.putConnection m c).mayWrite m c = true := by simp [quiet.mayWrite]
        have again : change ⟨s'.visible c, c.openReferences⟩ = .ok (w, count) := by
          rw [visible_congr same, changed]
        have takes' : c.medium.onWrite (s'.committed c.file) w.tables = none := by
          rw [same, takes]
        rw [write_of_ok may'' transaction again takes', putConnection_putConnection]
  · refine ⟨{ c with changes := 0 }, ?_, rfl, rfl, .inl transaction, ?_⟩
    · simp [write, may]
    · simp [write, may]

theorem repeats_readRows (columns : Option (List ColumnName)) (t : Table)
    (parameters : List Value) (filter : Option Condition) {c : Connection}
    (transaction : c.inTransaction = true) :
    Repeats Failure.IsOfMedium (fun _ _ => True) c fun s n =>
      (s.putConnection n c).readRows n c columns t parameters filter := by
  intro s n _
  by_cases may : s.mayRead n c = true
  · refine ⟨c.locked .shared, by simp [readRows, may], c.locked_file _, c.locked_medium _,
      .inl (by simp [transaction]), ?_⟩
    intro b reply
    constructor
    · exact Connection.lock_locked (by decide) transaction
    · intro s' m _ quiet _
      simp only [readRows, mayRead_putConnection, may, quiet.mayRead, Bool.not_true,
        Bool.false_eq_true, if_false, putConnection_putConnection] at reply ⊢
      rw [reply]
  · exact ⟨c, by simp [readRows, may], rfl, rfl, .inl transaction, by simp [readRows, may]⟩

theorem repeats_named (name : String) {c : Connection} (transaction : c.inTransaction = true)
    {act : Table → Store → Nat → Except Failure Reply × Store}
    (each : ∀ t, Repeats Failure.IsOfMedium (fun _ _ => True) c (act t)) :
    Repeats Failure.IsOfMedium (fun _ _ => True) c fun s n =>
      match (s.visible c).table? name with
      | none => (.error (.noSuchTable name), s.putConnection n c)
      | some t => act t s n := by
  intro s n _
  dsimp only
  cases found : (s.visible c).table? name with
  | none => exact ⟨c, rfl, rfl, rfl, .inl transaction, nofun⟩
  | some t =>
    obtain ⟨c', store, file, medium, goes_on, again⟩ := each t s n trivial
    refine ⟨c', store, file, medium, goes_on, fun b reply => ⟨(again b reply).1, ?_⟩⟩
    intro s' m _ quiet same
    simp only [visible_congr same, found]
    exact (again b reply).2 s' m trivial quiet same

theorem begin_nested (s : Store) (id : Nat) {c : Connection}
    (transaction : c.inTransaction = true) (mode : TransactionMode) :
    s.begin id c mode = (.error .locked, s) ∨ s.begin id c mode = (.error .nestedBegin, s) := by
  cases mode with
  | deferred => simp [begin, transaction]
  | immediate => cases h : s.mayWrite id c <;> simp [begin, transaction, h]
  | exclusive =>
    cases h : s.mayWrite id c <;> cases h' : s.mayCommit id c <;> simp [begin, transaction, h, h']

theorem repeats_step {command : Command} (plain : command.IsPlain)
    (parameters : List Value) {c : Connection} (transaction : c.inTransaction = true) :
    Repeats Failure.IsOfMedium (fun _ _ => True) c fun s n =>
      (s.putConnection n c).step n c command parameters := by
  cases command with
  | select columns name filter =>
    exact repeats_named name transaction fun t =>
      repeats_readRows columns t (parameters.map Value.received) filter transaction
  | insert name columns values =>
    exact repeats_named name transaction fun t => repeats_write (fun _ => false) _ transaction
  | update name assignments filter =>
    let assigned := assignments.map Prod.fst
    exact repeats_named name transaction fun t =>
      repeats_write (fun ts => Work.isJournaled c.enforced ts t.layout assigned filter) _
        transaction
  | delete name filter =>
    exact repeats_named name transaction fun t => repeats_write (fun _ => false) _ transaction
  | begin mode =>
    intro s n _
    have ran : (s.putConnection n c).step n c (.begin mode) parameters
        = (s.putConnection n c).begin n c mode := rfl
    dsimp only
    rcases begin_nested (s.putConnection n c) n transaction mode with nested | nested
    · rw [ran, nested]
      exact ⟨c, rfl, rfl, rfl, .inl transaction, nofun⟩
    · rw [ran, nested]
      exact ⟨c, rfl, rfl, rfl, .inl transaction, nofun⟩
  | nothing =>
    intro s n _
    exact ⟨c, rfl, rfl, rfl, .inl transaction, nofun⟩
  | commit | rollback | limitPages => cases plain

theorem run_of_command {s : Store} {id : Nat} {c : Connection} {sql name : String}
    {parameters : List Value} {command : Command} {t : Table}
    (conn : s.connection? id = some c) (read : Command.read (scan sql) = .ok command)
    (table : command.table? = some name) (may : (!c.knowsTables && !s.mayRead id c) = false)
    (found : (s.visible c).table? name = some t) (names : command.checkNames sql t.layout = .ok ())
    (count : parameters.length = (parameterMarkers (scan sql)).length) :
    s.run id sql parameters
      = asStoreError ((s.putConnection id { c with knowsTables := true }).step id
          { c with knowsTables := true } command parameters) := by
  have known : (s.visible { c with knowsTables := true }).table? name = some t := found
  simp only [run, conn, prepare, read, table, may, known, names, count]
  simp [Except.map]

theorem goesOn_asStoreError {r : Except Failure Reply × Store} {P Q R : Prop}
    (goes_on : P ∨ Q ∧ R ∧ ∃ e, r.1 = .error e ∧ e.IsOfMedium) :
    P ∨ Q ∧ R ∧ ∃ e, (asStoreError r).1 = .error e ∧ e.IsOfMedium :=
  goes_on.imp_right fun ⟨unreliable, unlocked, e, failed, of_medium⟩ =>
    ⟨unreliable, unlocked, .failed e, by rw [asStoreError, failed]; rfl, of_medium⟩

/-- A command without a table is run as it is read. -/
theorem run_tableless {s : Store} {n : Nat} {c : Connection} {sql : String} {command : Command}
    (read : Command.read (scan sql) = .ok command) (table : command.table? = none)
    (conn : s.connection? n = some c) (parameters : List Value) :
    s.run n sql parameters
      = if parameters.length = (parameterMarkers (scan sql)).length then
          asStoreError ((s.putConnection n c).step n c command parameters)
        else (.error (.parameterCount parameters.length (parameterMarkers (scan sql)).length),
          s.putConnection n c) := by
  simp only [run, conn, prepare, read, table, ne_eq, ite_not]

theorem repeats_run_tableless {sql : String} {command : Command}
    (read : Command.read (scan sql) = .ok command) (table : command.table? = none)
    (plain : command.IsPlain) (parameters : List Value) {c : Connection}
    (transaction : c.inTransaction = true) :
    Repeats StoreError.IsOfMedium (fun s n => s.connection? n = some c) c fun s n =>
      s.run n sql parameters := by
  intro s n conn
  obtain ⟨c', store, file, medium, goes_on, again⟩ :=
    repeats_step plain parameters transaction s n trivial
  dsimp only at store goes_on again ⊢
  rw [run_tableless read table conn]
  by_cases count : parameters.length = (parameterMarkers (scan sql)).length
  · simp only [if_pos count]
    refine ⟨c', store, file, medium, goesOn_asStoreError goes_on, fun b reply => ?_⟩
    obtain ⟨lock, repeated⟩ := again b (mapError_eq_ok.mp reply)
    refine ⟨lock, fun s' m conn' quiet same => ?_⟩
    rw [run_tableless read table conn', if_pos count]
    exact congrArg asStoreError (repeated s' m trivial quiet same)
  · simp only [if_neg count]
    exact ⟨c, rfl, rfl, rfl, .inl transaction, nofun⟩

theorem repeats_run {sql : String} (plain : IsPlain sql) (parameters : List Value)
    {c : Connection} (transaction : c.inTransaction = true) :
    Repeats StoreError.IsOfMedium (fun s n => s.connection? n = some c) c fun s n =>
      s.run n sql parameters := by
  intro s n conn
  dsimp only
  cases read : Command.read (scan sql) with
  | error e =>
    refine ⟨c, ?_, rfl, rfl, .inl transaction, ?_⟩
    · simp [run, conn, prepare, read]
    · simp [run, conn, prepare, read]
  | ok command =>
    cases table : command.table? with
    | none =>
      exact repeats_run_tableless read table (plain command read) parameters transaction s n conn
    | some name =>
      by_cases blocked : (!c.knowsTables && !s.mayRead n c) = true
      · refine ⟨c, ?_, rfl, rfl, .inl transaction, ?_⟩
        · simp only [run, conn, prepare, read, table, blocked, if_true]
        · simp only [run, conn, prepare, read, table, blocked, if_true]
          nofun
      have may : (!c.knowsTables && !s.mayRead n c) = false := Bool.eq_false_iff.mpr blocked
      cases found : (s.visible c).table? name with
      | none =>
        have known : (s.visible { c with knowsTables := true }).table? name = none := found
        refine ⟨{ c with knowsTables := true }, ?_, rfl, rfl, .inl transaction, ?_⟩
        · simp [run, conn, prepare, read, table, may, known]
        · simp [run, conn, prepare, read, table, may, known]
      | some t =>
        have known : (s.visible { c with knowsTables := true }).table? name = some t := found
        cases names : command.checkNames sql t.layout with
        | error e =>
          refine ⟨{ c with knowsTables := true }, ?_, rfl, rfl, .inl transaction, ?_⟩
          · simp [run, conn, prepare, read, table, may, known, names, Except.map]
          · simp [run, conn, prepare, read, table, may, known, names, Except.map]
        | ok _ =>
          -- only from here on can the statement succeed and take a lock
          by_cases count : parameters.length = (parameterMarkers (scan sql)).length
          · obtain ⟨c', store, file, medium, goes_on, again⟩ := repeats_step (plain command read)
              parameters (c := { c with knowsTables := true }) transaction s n trivial
            rw [run_of_command conn read table may found names count]
            refine ⟨c', store, file, medium, goesOn_asStoreError goes_on, fun b reply => ?_⟩
            have replied := mapError_eq_ok.mp reply
            refine ⟨(again b replied).1, fun s' m conn' quiet same => ?_⟩
            have may' : (!c.knowsTables && !s'.mayRead m c) = false := by simp [quiet.mayRead]
            have found' : (s'.visible c).table? name = some t := by rw [visible_congr same, found]
            rw [run_of_command conn' read table may' found' names count]
            exact congrArg asStoreError ((again b replied).2 s' m trivial quiet same)
          · refine ⟨{ c with knowsTables := true }, ?_, rfl, rfl, .inl transaction, ?_⟩
            · simp [run, conn, prepare, read, table, may, known, names, Except.map, count]
            · simp [run, conn, prepare, read, table, may, known, names, Except.map, count]

theorem Repeats.bind {ε β γ : Type} {fails : ε → Prop} {stands : Store → Nat → Prop}
    {c : Connection} {ask : Store → Nat → Except ε β × Store} (repeats : Repeats fails stands c ask)
    (f : β → Except ε γ) :
    Repeats fails stands c fun s n => ((ask s n).1 >>= f, (ask s n).2) := by
  intro s n here
  obtain ⟨c', store, file, medium, goes_on, again⟩ := repeats s n here
  refine ⟨c', store, file, medium, goes_on.imp_right ?_, fun b reply => ?_⟩
  · rintro ⟨unreliable, unlocked, e, failed, of_medium⟩
    exact ⟨unreliable, unlocked, e, congrArg (· >>= f) failed, of_medium⟩
  obtain ⟨a, asked, made⟩ := bind_eq_ok reply
  refine ⟨(again a asked).1, fun s' m there quiet same => ?_⟩
  dsimp only
  rw [(again a asked).2 s' m there quiet same, ok_bind, made]

def rowsOfReply : Reply → List ResultRow
  | .done _ => []
  | .rows columns rows => rows.map fun values => ⟨columns, values⟩

theorem query_eq (s : Store) (n : Nat) (sql : String) (parameters : List Value) :
    s.query n sql parameters = ((s.run n sql parameters).1 >>= fun reply => .ok (rowsOfReply reply),
      (s.run n sql parameters).2) := by
  rw [query]
  rcases s.run n sql parameters with ⟨_ | reply, s'⟩
  · rfl
  · cases reply <;> rfl

theorem repeats_query {sql : String} (plain : IsPlain sql) (parameters : List Value)
    {c : Connection} (transaction : c.inTransaction = true) :
    Repeats StoreError.IsOfMedium (fun s n => s.connection? n = some c) c fun s n =>
      s.query n sql parameters := by
  simp only [query_eq]
  exact (repeats_run plain parameters transaction).bind _

theorem repeats_execute {sql : String} (plain : IsPlain sql) (parameters : List Value)
    {c : Connection} (transaction : c.inTransaction = true) :
    Repeats StoreError.IsOfMedium (fun s n => s.connection? n = some c) c fun s n =>
      s.execute n sql parameters := by
  intro s n conn
  obtain ⟨c', store, file, medium, goes_on, again⟩ :=
    repeats_run plain parameters transaction s n conn
  refine ⟨c', store, file, medium, goes_on.imp_right ?_, fun count reply => ?_⟩
  · rintro ⟨unreliable, unlocked, e, failed, of_medium⟩
    dsimp only at failed ⊢
    exact ⟨unreliable, unlocked, e, by simp only [execute, failed], of_medium⟩
  dsimp only at store again reply
  rcases ran : s.run n sql parameters with ⟨_ | result, after⟩
  · rw [execute, ran] at reply
    cases reply
  · rw [ran] at store again
    obtain ⟨lock, repeated⟩ := again result rfl
    refine ⟨lock, fun s' m conn' quiet same => ?_⟩
    have changes : ∀ (s : Store) m, s.connection? m = some c →
        ((s.putConnection m c').connection? m).map (·.changes) = some c'.changes := by
      intro s m conn
      rw [connection?_putConnection_self conn]
      rfl
    dsimp only at store ⊢
    rw [execute, ran, store] at reply
    rw [execute, repeated s' m conn' quiet same]
    cases result with
    | done k =>
      cases reply
      rfl
    | rows columns rows =>
      cases rows with
      | cons r rest => cases reply
      | nil =>
        simp only [changes s n conn, changes s' m conn'] at reply ⊢
        rw [reply]

end Store

end RecordStore
