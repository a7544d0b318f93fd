import RecordStore.Proofs.Session.Serial

/-!
Steps of units that share a file. Calls, commits, rollbacks and disposals leave them
serialized by their commits, and so does the begin of another unit.
-/
namespace RecordStore.Serialized

open Sql

variable {path : String} {start : World} {file : Nat} {units : String → Option UnitOfWork}
  {s : Store} {w : World} {transcript : String → Transcript} {committed : List Transcript}
  {name : String} {u : UnitOfWork} {n : Nat} {c : Connection}

/-! ## Calls -/

/-- A statement that fails is remembered, so that the unit owes nothing any more. -/
theorem failed (inv : Serialized path start file units s transcript committed)
    (unit : units name = some u) (connection : u.connection = some n)
    (conn : s.connection? n = some c) {c' : Connection} (on : c'.file = file)
    (reliable : c'.medium = .reliable) (transaction : c'.inTransaction = true) {u' : UnitOfWork}
    (keeps : u'.connection = u.connection) (remembers : u'.failure ≠ none) (t : Transcript) :
    Serialized path start file (Function.update units name (some u')) (s.putConnection n c')
      (Function.update transcript name t) committed := by
  have leads : (s.putConnection n c').LeadsTo path file := inv.leads.congr rfl rfl
  have only : ∀ m, u'.connection = some m → m = n := by
    intro m connection'
    rw [keeps, connection] at connection'
    exact (Option.some.inj connection').symm
  apply inv.update (inv.owns unit connection) leads rfl
  · intro m apart
    exact Store.connection?_putConnection_other apart _
  · exact .inl rfl
  · intro v moved
    cases moved
    refine ⟨⟨fun _ => ⟨n, by rw [keeps, connection]⟩, fun m connection' => ?_⟩, only⟩
    cases only m connection'
    exact ⟨c', Store.connection?_putConnection_self conn c', on, reliable, fun _ => transaction⟩
  · intro other apart
    exact Function.update_of_ne apart ..
  · intro v d moved _ clean
    cases moved
    exact absurd clean remembers
  · exact inv.serial

/-- A statement that succeeds goes into the transcript: it has taken a lock, so the committed
tables are those of the serial execution until the unit ends. -/
theorem answered (inv : Serialized path start file units w.store transcript committed)
    (unit : units name = some u) (ongoing : u.state = .ongoing)
    (connection : u.connection = some n) (conn : w.store.connection? n = some c)
    (on : c.file = file) {call : Call} {b : call.Answer}
    {ask : Store → Nat → Except StoreError call.Answer × Store}
    (asks : UnitOfWork.Asks u.filterMode call.run ask) {c' : Connection} (on' : c'.file = file)
    (reliable : c'.medium = .reliable)
    (transaction : c'.inTransaction = true) (locked : c'.lock ≠ .none)
    (again : ∀ s m, s.connection? m = some c → s.IsQuiet m c.file →
      s.committed c.file = w.store.committed c.file → ask s m = (.ok b, s.putConnection m c')) :
    Serialized path start file units (w.store.putConnection n c')
      (Function.update transcript name ((transcript name).extended ⟨call, .ok b⟩)) committed := by
  have leads : (w.store.putConnection n c').LeadsTo path file := inv.leads.congr rfl rfl
  have self := Store.connection?_putConnection_self conn c'
  have only : ∀ m, u.connection = some m → m = n := by
    intro m connection'
    exact Option.some.inj (connection'.symm.trans connection)
  rw [← update_same unit]
  apply inv.update (inv.owns unit connection) leads rfl
  · intro m apart
    exact Store.connection?_putConnection_other apart _
  · exact .inl rfl
  · intro v moved
    cases moved
    refine ⟨⟨fun _ => ⟨n, connection⟩, fun m connection' => ?_⟩, only⟩
    cases only m connection'
    exact ⟨c', self, on', reliable, fun _ => transaction⟩
  · intro other apart
    exact Function.update_of_ne apart ..
  · intro v d moved _ clean found w' idle agrees
    cases moved
    cases Option.some.inj (self.symm.trans found)
    -- the lock is new or old; either way nobody has committed since the unit took its first
    have same : w'.store.committed file = w.store.committed file := agrees locked
    rw [Function.update_self]
    have before := inv.reaches name u n c unit ongoing clean connection conn w' idle fun _ => same
    apply before.extended
    intro m w₂ single files
    have repeated : ask w₂.store m = (.ok b, w₂.store.putConnection m c') := by
      apply again w₂.store m (Store.connection?_of_single single)
      · exact Store.isQuiet_of_single single c.file
      · rw [on, ← same]
        simp only [Store.committed, files]
    obtain ⟨_, opened⟩ := asks ⟨some m, .ongoing, none, u.filterMode⟩ w₂ rfl
    have gives := (opened m rfl).1 b (by rw [repeated])
    rw [repeated] at gives
    exact ⟨_, gives, Store.putConnection_single single c', rfl, rfl⟩
  · exact inv.serial

theorem called (inv : Serialized path start file units w.store transcript committed)
    (unit : units name = some u) (call : Call) :
    Serialized path start file (Function.update units name (some (call.run u w).unit))
      (call.run u w).world.store
      (Function.update transcript name
        ((transcript name).extended ⟨call, (call.run u w).answer⟩)) committed := by
  have elsewhere : ∀ t other, other ≠ name →
      Function.update transcript name t other = transcript other := by
    intro t other apart
    exact Function.update_of_ne apart ..
  cases call.settled u.filterMode with
  | refused refuses =>
    obtain ⟨answer, unit', store⟩ := refuses u w rfl
    rw [answer, unit', store, update_same unit]
    apply inv.transcribed (elsewhere _)
    intro v m d found ongoing clean connection conn w' idle agrees
    cases Option.some.inj (unit.symm.trans found)
    rw [Function.update_self]
    exact (inv.reaches name u m d unit ongoing clean connection conn w' idle agrees).refused refuses
  | @asked ask asks repeats =>
    obtain ⟨closed, opened⟩ := asks u w rfl
    by_cases ongoing : u.state = .ongoing
    · obtain ⟨n, c, connection, conn, on, reliable, transaction⟩ :=
        inv.connection_of_ongoing unit ongoing
      obtain ⟨ok, error⟩ := opened n (UnitOfWork.opened_of_ongoing ongoing connection)
      obtain ⟨c', moved, on', medium, goes_on, again⟩ := repeats c transaction w.store n conn
      have transaction' := goes_on.resolve_right fun lost => lost.1 reliable
      rw [on] at on'
      rw [reliable] at medium
      cases reply : (ask w.store n).1 with
      | ok b =>
        obtain ⟨answer, unit', store⟩ := ok b reply
        obtain ⟨locked, again⟩ := again b reply
        rw [answer, unit', store, moved, update_same unit]
        exact inv.answered unit ongoing connection conn on asks on' medium transaction' locked
          again
      | error e =>
        obtain ⟨failure, _, answer, unit', store⟩ := error e reply
        rw [answer, unit', store, moved]
        have remembers : u.failure.or (some failure) ≠ none := by
          cases u.failure <;> nofun
        exact inv.failed unit connection conn on' medium transaction' (by rfl) remembers _
    · obtain ⟨e, answer, unit', store⟩ := closed (UnitOfWork.closed_of_not_ongoing ongoing)
      rw [answer, unit', store, update_same unit]
      apply inv.transcribed (elsewhere _)
      intro v m d found ongoing'
      cases Option.some.inj (unit.symm.trans found)
      exact absurd ongoing' ongoing

/-! ## Ends -/

theorem commits (inv : Serialized path start file units s transcript committed)
    (unit : units name = some u) (ongoing : u.state = .ongoing)
    (connection : u.connection = some n) (conn : s.connection? n = some c)
    (on : c.file = file) (reliable : c.medium = .reliable)
    (transaction : c.inTransaction = true) (clean : u.failure = none)
    (may : s.mayKeep n c = true) :
    Serialized path start file
      (Function.update units name (some { u with state := .committed })) (s.keep n c)
      transcript (committed ++ [transcript name]) := by
  have leads : (s.keep n c).LeadsTo path file :=
    inv.leads.congr (Store.places_keep ..) (Store.directories_keep ..)
  have only : ∀ m, u.connection = some m → m = n := by
    intro m connection'
    exact Option.some.inj (connection'.symm.trans connection)
  obtain ⟨free, allowed⟩ := Store.mayKeep_iff.mp may
  apply inv.update (inv.owns unit connection) leads (Store.keep_nextConnection ..)
  · intro m apart
    exact Store.connection?_keep_other apart
  · -- a unit that has changed nothing commits beside others, and one that has commits alone
    cases work : c.work with
    | none =>
      left
      rw [Store.keep, work]
      rfl
    | some tables =>
      right
      intro m d apart conn' on'
      exact Store.lock_of_mayCommit (allowed tables work).1 apart conn' (on'.trans on.symm)
  · intro v moved
    cases moved
    have ended : UnitState.committed ≠ .ongoing := by decide
    refine ⟨⟨fun still => absurd still ended, fun m connection' => ?_⟩, only⟩
    cases only m connection'
    exact ⟨c.released, Store.connection?_keep_self conn, on, reliable,
      fun still => absurd still ended⟩
  · intro other _
    rfl
  · intro v d moved ongoing'
    cases moved
    cases ongoing'
  · obtain ⟨w, serially, idle, same⟩ := inv.serial
    have reaches := inv.reaches name u n c unit ongoing clean connection conn w idle fun _ => same
    subst on
    obtain ⟨w', again, idle', kept⟩ := reaches.again idle reliable transaction free
    refine ⟨w', serially.next again, idle', ?_⟩
    rw [kept, Store.committed_keep inv.leads.lt, Store.visible_congr same]

theorem committing (inv : Serialized path start file units w.store transcript committed)
    (unit : units name = some u) :
    ((u.commit w).answer = .ok () ∧
        Serialized path start file (Function.update units name (some (u.commit w).unit))
          (u.commit w).world.store transcript (committed ++ [transcript name])) ∨
      ∃ e, (u.commit w).answer = .error e ∧
        Serialized path start file (Function.update units name (some (u.commit w).unit))
          (u.commit w).world.store transcript committed := by
  by_cases ongoing : u.state = .ongoing
  · obtain ⟨n, c, connection, conn, on, reliable, transaction⟩ :=
      inv.connection_of_ongoing unit ongoing
    have opened := UnitOfWork.opened_of_ongoing ongoing connection
    rcases UnitOfWork.commit_cases opened conn transaction with
      ⟨⟨clean, may⟩, answer, unit', store⟩ | ⟨e, failure, answer, unit', store⟩
    · refine .inl ⟨answer, ?_⟩
      rw [unit', store]
      exact inv.commits unit ongoing connection conn on reliable transaction clean may
    · refine .inr ⟨e, answer, ?_⟩
      rw [unit', store]
      exact inv.ended unit connection conn on reliable (by rfl) nofun
  · obtain ⟨e, refused⟩ :=
      UnitOfWork.commit_closed (w := w) (UnitOfWork.closed_of_not_ongoing ongoing)
    rw [refused, update_same unit]
    exact .inr ⟨e, rfl, inv⟩

theorem rollingBack (inv : Serialized path start file units w.store transcript committed)
    (unit : units name = some u) :
    Serialized path start file (Function.update units name (some (u.rollback w).unit))
      (u.rollback w).world.store transcript committed := by
  by_cases ongoing : u.state = .ongoing
  · obtain ⟨n, c, connection, conn, on, reliable, transaction⟩ :=
      inv.connection_of_ongoing unit ongoing
    obtain ⟨unit', store⟩ :=
      UnitOfWork.rollback_ok (UnitOfWork.opened_of_ongoing ongoing connection) conn transaction
    rw [unit', store]
    exact inv.ended unit connection conn on reliable (by rfl) nofun
  · obtain ⟨e, refused⟩ :=
      UnitOfWork.rollback_closed (w := w) (UnitOfWork.closed_of_not_ongoing ongoing)
    rw [refused, update_same unit]
    exact inv

theorem disposing (inv : Serialized path start file units w.store transcript committed)
    (unit : units name = some u) :
    Serialized path start file (Function.update units name (some (u.dispose w).1))
      (u.dispose w).2.store transcript committed := by
  cases connection : u.connection with
  | none =>
    rw [UnitOfWork.dispose_disconnected connection, update_same unit]
    exact inv
  | some n =>
    obtain ⟨c, conn, _⟩ := (inv.connected name u unit).stands n connection
    obtain ⟨unit', store⟩ := UnitOfWork.dispose_connected connection conn
    rw [unit', store]
    apply inv.closed unit connection
    intro v moved
    cases moved
    exact ⟨rfl, nofun⟩

theorem dropping (inv : Serialized path start file units w.store transcript committed)
    (unit : units name = some u) :
    Serialized path start file (Function.update units name none) (u.dispose w).2.store
      transcript committed := by
  have disposed := (inv.disposing unit).forgotten name
  rwa [Function.update_idem] at disposed

/-! ## Begins -/

theorem beside (inv : Serialized path start file units s transcript committed) {s' : Store}
    (leads : s'.LeadsTo path file)
    (kept : ∀ m, m < s.nextConnection → s'.connection? m = s.connection? m)
    (unused : ∀ m, s'.nextConnection ≤ m → s'.connection? m = none)
    (same : s'.committed file = s.committed file) :
    Serialized path start file units s' transcript committed := by
  constructor
  · exact leads
  · exact unused
  · intro name u unit
    obtain ⟨opened, stands⟩ := inv.connected name u unit
    refine ⟨opened, fun m connection => ?_⟩
    rw [kept m (inv.owns unit connection).1]
    exact stands m connection
  · exact inv.apart
  · intro name u m c unit ongoing clean connection conn w idle agrees
    rw [kept m (inv.owns unit connection).1] at conn
    rw [same] at agrees
    exact inv.reaches name u m c unit ongoing clean connection conn w idle agrees
  · rw [same]
    exact inv.serial

theorem closedAgain (inv : Serialized path start file units s transcript committed)
    (enforced : Bool) :
    Serialized path start file units ((s.connect file enforced).2.close s.nextConnection)
      transcript committed := by
  have fresh := inv.unused s.nextConnection (Nat.le_refl _)
  have kept : ∀ m, ((s.connect file enforced).2.close s.nextConnection).connection? m
      = if m = s.nextConnection then none else s.connection? m := by
    intro m
    rw [Store.connection?_close, Store.connection?_connect fresh]
    split <;> rfl
  apply inv.beside
  · exact inv.leads.congr rfl rfl
  · intro m below
    rw [kept, if_neg (by omega)]
  · intro m beyond
    rw [kept]
    split
    · rfl
    · exact inv.unused m (Nat.le_of_succ_le beyond)
  · rfl

theorem joined (inv : Serialized path start file units s transcript committed) (enforced : Bool)
    (c : Connection) :
    Serialized path start file units
      ((s.connect file enforced).2.putConnection s.nextConnection c) transcript committed := by
  have fresh := inv.unused s.nextConnection (Nat.le_refl _)
  have kept : ∀ m, m ≠ s.nextConnection →
      ((s.connect file enforced).2.putConnection s.nextConnection c).connection? m
        = s.connection? m := by
    intro m apart
    rw [Store.connection?_putConnection_other apart, Store.connection?_connect fresh,
      if_neg apart]
  apply inv.beside
  · exact inv.leads.congr rfl rfl
  · intro m below
    exact kept m (by omega)
  · intro m beyond
    have behind : s.nextConnection < m := beyond
    rw [kept m (by omega)]
    exact inv.unused m (by omega)
  · rfl

theorem begins (inv : Serialized path start file units s transcript committed)
    (own : Owns units s name n) {o : StoreOptions}
    (timely : o.busyTimeoutMs.toNat ≤ maxBusyTimeoutMs)
    (conn : s.connection? n = some ((Connection.fresh file o.foreignKeys).begun
      (s.committed file) o.transactionMode)) :
    Serialized path start file
      (Function.update units name (some ⟨some n, .ongoing, none, o.filterMode⟩)) s
      (Function.update transcript name ⟨o, []⟩) committed := by
  apply inv.update own inv.leads rfl
  · intro m _
    rfl
  · exact .inl rfl
  · intro v moved
    cases moved
    refine ⟨⟨fun _ => ⟨n, rfl⟩, fun m connection => ?_⟩, fun m connection => ?_⟩
    · cases connection
      exact ⟨_, conn, Connection.begun_file .., Connection.begun_medium ..,
        fun _ => Connection.begun_inTransaction ..⟩
    · exact (Option.some.inj connection).symm
  · intro other apart
    exact Function.update_of_ne apart ..
  · intro v c moved _ _ conn' w idle agrees
    cases moved
    cases Option.some.inj (conn.symm.trans conn')
    rw [Function.update_self]
    exact Transcript.reaches_begun idle timely agrees
  · exact inv.serial

end RecordStore.Serialized
