import RecordStore.Document.Options
import RecordStore.Proofs.Schema.Accepted
import RecordStore.Proofs.Session.Attached
import RecordStore.Proofs.Store.Lookups

/-!
What stops the program. A busy timeout that does not fit the engine does, at the opening of a
database, and nothing else: units find their connections, and their statements find whatever they
look up.
-/
namespace RecordStore

open Sql

/-! ## Openings -/

namespace World

/-- The opening gets as far as to set a timeout that is too great. -/
def Overflows (w : World) (l : Location) (o : StoreOptions) : Prop :=
  maxBusyTimeoutMs < o.busyTimeoutMs.toNat ∧ ∃ opened, connect w.store l o = .ok opened

variable {w : World} {l : Location} {o : StoreOptions}

/-- What an opening leaves that stops the program: its start in the log, and what the closed
connection made. -/
def Stopped (w : World) (l : Location) (o : StoreOptions) (w' : World) : Prop :=
  ∃ n s, connect w.store l o = .ok (n, s) ∧
    w' = { w with store := s.close n }.log (.openStarted l.placement)

theorem openDatabase_overflows (overflows : w.Overflows l o) :
    ∃ w', w.openDatabase l o = (.error .timeoutOverflow, w') ∧ w.Stopped l o w' := by
  obtain ⟨great, ⟨n, s⟩, connected⟩ := overflows
  refine ⟨_, ?_, n, s, connected, rfl⟩
  simp only [openDatabase, store_log, connected, if_pos great]
  rfl

theorem overflows_of_openDatabase (stopped : (w.openDatabase l o).1 = .error .timeoutOverflow) :
    w.Overflows l o := by
  simp only [openDatabase, store_log] at stopped
  split at stopped
  · cases stopped
  · rename_i n s connected
    split at stopped
    · rename_i great
      exact ⟨great, (n, s), connected⟩
    · cases stopped

theorem beginUnit_overflows (overflows : w.Overflows l o) (before : Option String) :
    ∃ w', w.beginUnit l o before = (.error .timeoutOverflow, w') ∧ w.Stopped l o w' := by
  obtain ⟨w', opened, stopped⟩ := openDatabase_overflows overflows
  exact ⟨w', by rw [beginUnit, opened], stopped⟩

theorem prepareConnection_ne_timeoutOverflow (w : World) (n : Nat) (before : Option String) :
    (w.prepareConnection n before).1 ≠ .error .timeoutOverflow := by
  unfold prepareConnection
  split
  · nofun
  · split <;> nofun

/-- What fails behind the opening is a text that was run before, or the beginning itself. -/
theorem overflows_of_beginUnit {before : Option String}
    (stopped : (w.beginUnit l o before).1 = .error .timeoutOverflow) : w.Overflows l o := by
  unfold beginUnit at stopped
  split at stopped
  · rename_i e w₁ opened
    cases stopped
    exact overflows_of_openDatabase (congrArg Prod.fst opened)
  · rename_i n w₁ opened
    split at stopped
    · rename_i e w₂ prepared
      cases stopped
      exact absurd (congrArg Prod.fst prepared) (w₁.prepareConnection_ne_timeoutOverflow n before)
    · rename_i w₂ prepared
      dsimp only at stopped
      cases begun : (UnitOfWork.begin w₂ n o).1 with
      | error e =>
        rw [begun] at stopped
        cases stopped
      | ok u =>
        rw [begun] at stopped
        cases stopped

end World

/-! ## Sessions -/

/-- What a unit asks of its connection is there: the connection and its file, whatever a
statement with its parameters looks up, and the values of the rows that it reads. -/
structure Store.Serves (s : Store) (n : Nat) : Prop where
  connection : ∃ c, s.connection? n = some c ∧ c.file < s.files.length
  statement : ∀ c sql command c' parameters, s.connection? n = some c →
    s.prepare n c sql = (.ok command, c') →
    parameters.length = (parameterMarkers (scan sql)).length →
    command.Finds (s.visible c') parameters
  row : ∀ sql parameters rows, (s.query n sql parameters).1 = .ok rows → ∀ row ∈ rows,
    ∀ name i v, row.value name = .ok (i, v) → row.values[i]? = some v

theorem Store.serves {s : Store} {n : Nat} (numbered : s.IsNumbered)
    (holds : s.Holds Tables.AreWhole) (mem : n ∈ s.numbers) : s.Serves n where
  connection := by
    obtain ⟨c, conn⟩ := mem_numbers.mp mem
    exact ⟨c, conn, (numbered (n, c) (mem_of_connection? conn)).2⟩
  statement c sql command c' parameters conn prepared given :=
    finds_of_prepare (holds.visible Tables.areWhole_nil conn) prepared given
  row sql parameters rows queried row mem name i v found :=
    getElem?_of_query holds queried mem found

/-- A beginning stops the program if and only if its timeout overflows, and then all that is left
of it is the start in the log and, for a file that was not there, the new file. What units that
are open ask of the store is there. -/
structure Session.IsSound (s : Session) : Prop where
  stops : ∀ name l o before, (s.begin name l o before).1 = .error .timeoutOverflow ↔
    s.world.Overflows l o
  leaves : ∀ name l o before, s.world.Overflows l o →
    ∃ w, s.world.Stopped l o w ∧ (s.begin name l o before).2 = { s with world := w }
  serves : ∀ name u, s.unit? name = some u → u.state = .ongoing →
    ∃ n, u.connection = some n ∧ s.world.store.Serves n

namespace Session

variable {s : Session} {name : String} {l : Location} {o : StoreOptions}

theorem begin_overflows (overflows : s.world.Overflows l o) (name : String)
    (before : Option String) :
    ∃ w, s.world.Stopped l o w ∧
      s.begin name l o before = (.error .timeoutOverflow, { s with world := w }) := by
  obtain ⟨w, began, stopped⟩ := World.beginUnit_overflows overflows before
  exact ⟨w, stopped, by rw [Session.begin, began]⟩

theorem overflows_of_begin {before : Option String}
    (stopped : (s.begin name l o before).1 = .error .timeoutOverflow) :
    s.world.Overflows l o := by
  rw [Session.begin] at stopped
  rcases began : s.world.beginUnit l o before with ⟨e | u, w⟩
  · rw [began] at stopped
    cases stopped
    exact World.overflows_of_beginUnit (congrArg Prod.fst began)
  · rw [began] at stopped
    cases stopped

theorem isSound (numbered : s.world.store.IsNumbered)
    (holds : s.world.store.Holds Tables.AreWhole) (attached : s.IsAttached)
    (connected : s.IsConnected) : s.IsSound where
  stops name l o before := by
    refine ⟨overflows_of_begin, fun overflows => ?_⟩
    obtain ⟨w, _, began⟩ := begin_overflows overflows name before
    exact congrArg Prod.fst began
  leaves name l o before overflows := by
    obtain ⟨w, stopped, began⟩ := begin_overflows overflows name before
    exact ⟨w, stopped, congrArg Prod.snd began⟩
  serves name u found ongoing := by
    obtain ⟨n, connection⟩ := Option.ne_none_iff_exists'.mp (connected name u found ongoing)
    exact ⟨n, connection, Store.serves numbered holds (attached.there name u n found connection)⟩

end Session

/-- A unit begins, with whole tables if it brings any, is asked something or loses its name. -/
def Action.IsOwn : Action → Prop
  | begin _ l _ _ => l.Brings Tables.AreWhole
  | elsewhere _ => False
  | _ => True

theorem Action.IsOwn.keeps {action : Action} (own : action.IsOwn) (I : Store → Prop) :
    action.Keeps Tables.AreWhole I := by
  cases action with
  | begin name l o before => exact own
  | ask name request | drop name => trivial
  | elsewhere act => cases own

theorem Session.IsAttached.run {s : Session} (attached : s.IsAttached)
    (numbered : s.world.store.IsNumbered) {action : Action} (own : action.IsOwn) :
    (action.run s).2.IsAttached := by
  cases action with
  | begin name l o before => exact attached.begin numbered name l o before
  | ask name request => exact attached.ask name request
  | drop name => exact attached.drop name
  | elsewhere act => cases own

theorem isAttached_perform {s : Session} (attached : s.IsAttached)
    (numbered : s.world.store.IsNumbered) {actions : List Action}
    (own : ∀ action ∈ actions, action.IsOwn) : (perform actions s).2.IsAttached := by
  have keeps := Store.invariant_isNumbered Tables.areWhole_nil
  induction actions generalizing s with
  | nil => exact attached
  | cons action rest ih =>
    obtain ⟨first, others⟩ := List.forall_mem_cons.mp own
    exact ih (attached.run numbered first) (keeps.action numbered (first.keeps _)) others

/-- Whatever units begin, with whatever options, and whatever they are asked: a timeout that
overflows is all that stops the program. The native evaluation of a predicate finds the column of
each name that has a position. -/
theorem Session.stops_only_for_timeouts {start : Store} (numbered : start.IsNumbered)
    (holds : start.Holds Tables.AreWhole) {actions : List Action}
    (own : ∀ action ∈ actions, action.IsOwn) :
    (perform actions (.ofStore start)).2.IsSound ∧
      ∀ columns name i, Schema.position? columns name = some i →
        ∃ column, columns[i]? = some column ∧ Schema.column? columns name = some column := by
  have numbers := Store.invariant_isNumbered Tables.areWhole_nil
  have tables := Store.invariant_holds Tables.areWhole_nil Tables.lasts_areWhole
  have empty : (ofStore start).IsConnected := by
    intro name u found
    simp [ofStore, unit?] at found
  constructor
  · apply isSound
    · exact numbers.perform (s := ofStore start) numbered fun action mem => (own action mem).keeps _
    · exact tables.perform (s := ofStore start) holds fun action mem => (own action mem).keeps _
    · exact isAttached_perform (isAttached_ofStore start) numbered own
    · exact isConnected_perform empty actions
  · intro columns name i place
    have inside := (List.findIdx?_eq_some_iff_findIdx_eq.mp place).1
    refine ⟨columns[i], List.getElem?_eq_getElem inside, ?_⟩
    rw [Schema.column?_eq_bind, place, Option.bind_some, List.getElem?_eq_getElem inside]

/-- A unit with the greatest timeout, which is asked for a record and for no statement at all, and
another below a directory that is not there. -/
def patient : List Action :=
  [.begin "a" (.memory emptyTables) { StoreOptions.default with busyTimeoutMs := 2147483647 } none,
    .ask "a" (.call (.create entryRecord ⟨1, none, .newYear2024⟩)),
    .ask "a" (.execute .create "T" ⟨"SELEC", []⟩),
    .begin "b" (.file "/nowhere/store.db") .default none]

theorem Session.stops_only_for_timeouts_patient :
    ∃ u n, (perform patient (.ofStore (.empty []))).2.unit? "a" = some u ∧
      u.failure.isSome = true ∧ u.connection = some n ∧
      (perform patient (.ofStore (.empty []))).2.world.store.Serves n ∧
      ((perform patient (.ofStore (.empty []))).2.begin "c" (.memory emptyTables)
        { StoreOptions.default with busyTimeoutMs := 2147483648 } none).1
          = .error .timeoutOverflow := by
  have own : ∀ action ∈ patient, action.IsOwn := by
    have none_in : emptyTables.AreWhole := by
      intro t mem
      simp only [emptyTables, List.mem_cons, List.not_mem_nil, or_false] at mem
      rcases mem with rfl | rfl | rfl <;> exact List.forall_mem_nil _
    simp [patient, Action.IsOwn, Location.Brings, none_in]
  have numbered : (Store.empty []).IsNumbered := List.forall_mem_nil _
  have whole : (Store.empty []).Holds Tables.AreWhole :=
    ⟨List.forall_mem_nil _, fun e mem => absurd mem (List.not_mem_nil)⟩
  obtain ⟨sound, -⟩ := stops_only_for_timeouts numbered whole own
  have ran : ((perform patient (.ofStore (.empty []))).2.unit? "a").map
      (fun u => (u.state, u.failure.isSome)) = some (.ongoing, true) := by decide +kernel
  obtain ⟨u, found, same⟩ := Option.map_eq_some_iff.mp ran
  obtain ⟨ongoing, failed⟩ := Prod.mk.inj same
  obtain ⟨n, connection, serves⟩ := sound.serves "a" u found ongoing
  exact ⟨u, n, found, failed, connection, serves,
    (sound.stops "c" (.memory emptyTables) _ none).mpr ⟨by decide, _, rfl⟩⟩

/-- A document asks for a timeout of one more than the greatest. The opening stops the program and
leaves its start in the log without an outcome. -/
theorem Session.stops_for_decoded_timeout :
    ∃ o, StoreOptions.decode (.ofFields [("busy_timeout_ms", .natural 2147483648)]) = .ok o ∧
      ((ofStore (.empty [])).begin "a" (.memory emptyTables) o none).1
        = .error .timeoutOverflow ∧
      ((ofStore (.empty [])).begin "a" (.memory emptyTables) o none).2.world.events
        = [.openStarted .memory] := by
  exact ⟨{ StoreOptions.default with busyTimeoutMs := 2147483648 }, rfl, rfl, rfl⟩

end RecordStore
