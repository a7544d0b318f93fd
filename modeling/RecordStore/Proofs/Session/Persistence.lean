import RecordStore.Proofs.Session.Ongoing
import RecordStore.Proofs.Session.Runs
import RecordStore.Proofs.Store.Outside

/-!
What a unit leaves behind. As long as neither a statement of its caller nor the medium ends the
transaction, the unit and its connection agree about it, and only a commit of the unit changes
what others read.
-/
namespace RecordStore

open Sql

/-- The world with all its connections on this medium. -/
def World.onMedium (w : World) (m : Medium) : World :=
  { w with store := { w.store with
      connections := w.store.connections.map fun (i, c) => (i, { c with medium := m }) } }

namespace UnitOfWork

variable {path : String} {file n : Nat} {u u₀ : UnitOfWork} {w w₀ w₁ : World} {c : Connection}
  {request : Request} {requests : List Request}

/-- The unit and its connection, the only one, are in a transaction. -/
structure AtWork (path : String) (file n : Nat) (u : UnitOfWork) (s : Store) (c : Connection) :
    Prop where
  ongoing : u.state = .ongoing
  connected : u.connection = some n
  single : s.connections = [(n, c)]
  on : c.file = file
  transaction : c.inTransaction = true
  leads : s.LeadsTo path file
  below : n < s.nextConnection

/-- The unit has ended and is in nobody's way. -/
structure IsOver (path : String) (file n : Nat) (u : UnitOfWork) (s : Store) : Prop where
  ended : u.state ≠ .ongoing
  released : u.connection = none ∧ s.connections = [] ∨
    ∃ c, u.connection = some n ∧ s.connections = [(n, c)] ∧ c.lock = .none
  leads : s.LeadsTo path file
  below : n < s.nextConnection

theorem AtWork.opened {s : Store} (work : AtWork path file n u s c) :
    u.openConnection? = some n :=
  opened_of_ongoing work.ongoing work.connected

theorem AtWork.conn {s : Store} (work : AtWork path file n u s c) : s.connection? n = some c :=
  Store.connection?_of_single work.single

theorem AtWork.put {s : Store} (work : AtWork path file n u s c) {c' : Connection}
    (on : c'.file = c.file) (transaction : c'.inTransaction = true) :
    AtWork path file n u (s.putConnection n c') c' where
  ongoing := work.ongoing
  connected := work.connected
  single := Store.putConnection_single work.single c'
  on := on.trans work.on
  transaction := transaction
  leads := work.leads.congr rfl rfl
  below := work.below

theorem AtWork.remembering {β : Type} {s : Store} {step : UnitStep β}
    (work : AtWork path file n u s c) (remembers : u.Remembers step) :
    AtWork path file n step.unit s c := by
  rw [remembers]
  exact { work with }

theorem AtWork.released {s : Store} (work : AtWork path file n u s c) {u' : UnitOfWork}
    (connected : u'.connection = some n) (ended : u'.state ≠ .ongoing) :
    IsOver path file n u' (s.putConnection n c.released) where
  ended := ended
  released := .inr ⟨c.released, connected, Store.putConnection_single work.single _, rfl⟩
  leads := work.leads.congr rfl rfl
  below := work.below

/-! ## Statements -/

/-- A statement that keeps the transaction leaves the committed tables alone. -/
theorem AtWork.within {β : Type} (work : AtWork path file n u w.store c) {step : UnitStep β}
    (goes_on : GoesOn n c u w step) (unfailed : ¬FailsByMedium step.answer) :
    (∃ c', AtWork path file n step.unit step.world.store c') ∧
      step.world.store.committed file = w.store.committed file := by
  rcases goes_on.moved with same | ⟨c', store, on, transaction | ⟨_, fails⟩⟩
  · rw [same]
    exact ⟨⟨c, work.remembering goes_on.remembers⟩, rfl⟩
  · rw [store]
    exact ⟨⟨c', (work.put on transaction).remembering goes_on.remembers⟩, rfl⟩
  · exact absurd fails unfailed

/-! ## Ends -/

/-- A commit either keeps what the connection sees or leaves the committed tables alone. -/
theorem AtWork.commit (work : AtWork path file n u w.store c) :
    IsOver path file n (u.commit w).unit (u.commit w).world.store ∧
      (((u.commit w).answer = .ok () ∧
          (u.commit w).world.store.committed file = w.store.visible c) ∨
        (u.commit w).answer ≠ .ok () ∧
          (u.commit w).world.store.committed file = w.store.committed file) := by
  rcases commit_cases work.opened work.conn work.transaction with
    ⟨-, answer, unit, store⟩ | ⟨e, failure, answer, unit, store⟩
  · rw [unit, store]
    refine ⟨⟨nofun, .inr ⟨c.released, work.connected, Store.keep_single work.single, rfl⟩,
      work.leads.congr (Store.places_keep ..) (Store.directories_keep ..), ?_⟩,
      .inl ⟨answer, ?_⟩⟩
    · rw [Store.keep_nextConnection]
      exact work.below
    · rw [← work.on]
      exact Store.committed_keep (work.on ▸ work.leads.lt) n
  · rw [answer, unit, store]
    exact ⟨work.released work.connected nofun, .inr ⟨nofun, rfl⟩⟩

theorem AtWork.rollback (work : AtWork path file n u w.store c) :
    IsOver path file n (u.rollback w).unit (u.rollback w).world.store ∧
      (u.rollback w).world.store.committed file = w.store.committed file := by
  obtain ⟨unit, store⟩ := rollback_ok work.opened work.conn work.transaction
  rw [unit, store]
  exact ⟨work.released work.connected nofun, rfl⟩

theorem AtWork.dispose (work : AtWork path file n u w.store c) :
    IsOver path file n (u.dispose w).1 (u.dispose w).2.store ∧
      (u.dispose w).2.store.committed file = w.store.committed file := by
  obtain ⟨unit, store⟩ := dispose_connected work.connected work.conn
  rw [unit, store]
  refine ⟨⟨nofun, .inl ⟨rfl, ?_⟩, work.leads.congr rfl rfl, work.below⟩, rfl⟩
  simp [Store.close, work.single]

theorem IsOver.dispose (past : IsOver path file n u w.store) :
    IsOver path file n (u.dispose w).1 (u.dispose w).2.store ∧
      (u.dispose w).2.store.committed file = w.store.committed file := by
  rcases past.released with ⟨gone, _⟩ | ⟨c, connected, single, _⟩
  · rw [dispose_disconnected gone]
    exact ⟨past, rfl⟩
  · obtain ⟨unit, store⟩ := dispose_connected (w := w) connected
      (Store.connection?_of_single single)
    rw [unit, store]
    refine ⟨⟨nofun, .inl ⟨rfl, ?_⟩, past.leads.congr rfl rfl, past.below⟩, rfl⟩
    simp [Store.close, single]

/-- Whatever is refused changes neither the unit nor the store. -/
theorem IsOver.refused (past : IsOver path file n u w.store) (request : Request)
    {e : RepositoryError} (gives : Gives (request.run u w) (.error e) u w.store) :
    IsOver path file n (request.run u w).unit (request.run u w).world.store ∧
      (request.run u w).world.store.committed file = w.store.committed file ∧
      (⟨request, (request.run u w).answer⟩ : Asked) ≠ ⟨.commit, .ok ()⟩ := by
  obtain ⟨answer, unit, store⟩ := gives
  rw [answer, unit, store]
  exact ⟨past, rfl, by rintro ⟨⟩⟩

/-- A unit that is not open refuses everything but to be disposed of. -/
theorem gives_closed (closed : u.openConnection? = none) (request : Request)
    (other : request ≠ .dispose) (w : World) :
    ∃ e, Gives (request.run u w) (.error e) u w.store := by
  cases request with
  | call call =>
    cases call.settled u.filterMode with
    | @refused e refuses => exact ⟨e, refuses u w rfl⟩
    | asked asks _ => exact (asks u w rfl).1 closed
  | execute operation entity statement =>
    refine ⟨.notOpen u.state operation.name, ?_⟩
    rw [Request.run, UnitOfWork.execute, closed]
    exact ⟨rfl, rfl, rfl⟩
  | query operation entity ofRow statement =>
    refine ⟨.notOpen u.state operation.name, ?_⟩
    rw [Request.run, UnitOfWork.query, closed]
    exact ⟨rfl, rfl, rfl⟩
  | commit =>
    obtain ⟨e, refused⟩ := commit_closed (w := w) closed
    refine ⟨e, ?_⟩
    rw [Request.run, refused]
    exact ⟨rfl, rfl, rfl⟩
  | rollback =>
    obtain ⟨e, refused⟩ := rollback_closed (w := w) closed
    refine ⟨e, ?_⟩
    rw [Request.run, refused]
    exact ⟨rfl, rfl, rfl⟩
  | dispose => exact absurd rfl other

theorem IsOver.ask (past : IsOver path file n u w.store) (request : Request) :
    IsOver path file n (request.run u w).unit (request.run u w).world.store ∧
      (request.run u w).world.store.committed file = w.store.committed file ∧
      (⟨request, (request.run u w).answer⟩ : Asked) ≠ ⟨.commit, .ok ()⟩ := by
  by_cases disposes : request = .dispose
  · subst disposes
    obtain ⟨past, same⟩ := past.dispose
    exact ⟨past, same, by rintro ⟨⟩⟩
  · obtain ⟨e, gives⟩ := gives_closed (closed_of_not_ongoing past.ended) request disposes w
    exact past.refused request gives

theorem AtWork.ask (work : AtWork path file n u w.store c)
    (reads : request.ReadsAs Command.KeepsTransaction)
    (unfailed : ¬FailsByMedium (request.run u w).answer) :
    ((∃ c', AtWork path file n (request.run u w).unit (request.run u w).world.store c') ∨
        IsOver path file n (request.run u w).unit (request.run u w).world.store) ∧
      ((⟨request, (request.run u w).answer⟩ : Asked) ≠ ⟨.commit, .ok ()⟩ →
        (request.run u w).world.store.committed file = w.store.committed file) := by
  cases request with
  | call call =>
    obtain ⟨later, same⟩ := work.within
      (goesOn_call work.opened work.conn work.transaction call) unfailed
    exact ⟨.inl later, fun _ => same⟩
  | execute operation entity statement =>
    obtain ⟨command, read, keeps⟩ := reads
    obtain ⟨later, same⟩ := work.within
      (goesOn_execute work.opened work.conn work.transaction operation entity read keeps) unfailed
    exact ⟨.inl later, fun _ => same⟩
  | query operation entity ofRow statement =>
    obtain ⟨command, read, keeps⟩ := reads
    obtain ⟨later, same⟩ := work.within
      (goesOn_query work.opened work.conn work.transaction operation entity ofRow read keeps)
      unfailed
    exact ⟨.inl later, fun _ => same⟩
  | commit =>
    obtain ⟨past, ⟨answer, _⟩ | ⟨_, same⟩⟩ := work.commit
    · exact ⟨.inr past, fun other => absurd (congrArg (Asked.mk .commit) answer) other⟩
    · exact ⟨.inr past, fun _ => same⟩
  | rollback =>
    obtain ⟨past, same⟩ := work.rollback
    exact ⟨.inr past, fun _ => same⟩
  | dispose =>
    obtain ⟨past, same⟩ := work.dispose
    exact ⟨.inr past, fun _ => same⟩

/-! ## Runs -/

theorem IsOver.askAll (past : IsOver path file n u w.store) (requests : List Request) :
    IsOver path file n (askAll requests u w).2.1 (askAll requests u w).2.2.store ∧
      (askAll requests u w).2.2.store.committed file = w.store.committed file := by
  induction requests generalizing u w with
  | nil => exact ⟨past, rfl⟩
  | cons request rest ih =>
    obtain ⟨past, same, _⟩ := past.ask request
    obtain ⟨past, same'⟩ := ih past
    exact ⟨past, same'.trans same⟩

theorem AtWork.askAll (work : AtWork path file n u w.store c)
    (reads : ∀ request ∈ requests, request.ReadsAs Command.KeepsTransaction)
    (unfailed : ∀ a ∈ (askAll requests u w).1, ¬FailsByMedium a.answer) :
    ((∃ c', AtWork path file n (askAll requests u w).2.1 (askAll requests u w).2.2.store c') ∨
        IsOver path file n (askAll requests u w).2.1 (askAll requests u w).2.2.store) ∧
      ((⟨.commit, .ok ()⟩ : Asked) ∉ (askAll requests u w).1 →
        (askAll requests u w).2.2.store.committed file = w.store.committed file) := by
  induction requests generalizing u w c with
  | nil => exact ⟨.inl ⟨c, work⟩, fun _ => rfl⟩
  | cons request rest ih =>
    obtain ⟨first, others⟩ := List.forall_mem_cons.mp reads
    obtain ⟨fine, later⟩ := List.forall_mem_cons.mp unfailed
    obtain ⟨stage, same⟩ := work.ask first fine
    rcases stage with ⟨c', work⟩ | past
    · obtain ⟨stage, same'⟩ := ih work others later
      refine ⟨stage, fun none => ?_⟩
      obtain ⟨now, rest⟩ := not_or.mp (mt List.mem_cons.mpr none)
      exact (same' rest).trans (same (Ne.symm now))
    · obtain ⟨past, same'⟩ := past.askAll rest
      refine ⟨.inr past, fun none => ?_⟩
      exact same'.trans (same (Ne.symm (not_or.mp (mt List.mem_cons.mpr none)).1))

theorem askAll_append (before after : List Request) (u : UnitOfWork) (w : World) :
    askAll (before ++ after) u w
      = ((askAll before u w).1 ++
          (askAll after (askAll before u w).2.1 (askAll before u w).2.2).1,
        (askAll after (askAll before u w).2.1 (askAll before u w).2.2).2) := by
  induction before generalizing u w with
  | nil => rfl
  | cons request rest ih => simp only [List.cons_append, RecordStore.askAll, ih]

/-! ## Readers -/

/-- What a unit itself reads from a table. -/
def ownRows (u : UnitOfWork) (w : World) (table : String) :
    Except StoreError (List (List Value)) :=
  match u.openConnection? with
  | none => .ok []
  | some n => (w.store.query n ("SELECT * FROM " ++ table) []).1.map (·.map ResultRow.values)

theorem IsOver.unused {s : Store} (past : IsOver path file n u s) :
    s.connection? s.nextConnection = none := by
  have apart : (s.nextConnection == n) = false := by simp [Nat.ne_of_gt past.below]
  rcases past.released with ⟨_, alone⟩ | ⟨c, _, single, _⟩
  · simp [Store.connection?, alone]
  · simp [Store.connection?, single, List.lookup_cons, apart]

theorem IsOver.unlocked {s : Store} (past : IsOver path file n u s) :
    ∀ e ∈ s.connections, e.2.lock = .none := by
  rcases past.released with ⟨_, alone⟩ | ⟨c, _, single, unlocked⟩
  · simp [alone]
  · simp [single, unlocked]

theorem IsOver.readTable (past : IsOver path file n u w.store) (idle : w₀.IsIdle path file)
    (same : w.store.committed file = w₀.store.committed file) (table : String) :
    (w.readTable path table).1 = (w₀.readTable path table).1 := by
  rcases World.readTable_committed past.leads idle.leads past.unused idle.alone same.symm table with
    read | ⟨_, e, mem, _, pending⟩
  · exact read
  · rw [past.unlocked e mem] at pending
    cases pending

theorem AtWork.readTable (work : AtWork path file n u w.store c) (idle : w₀.IsIdle path file)
    (same : w.store.committed file = w₀.store.committed file) (table : String) :
    (w.readTable path table).1 = (w₀.readTable path table).1 ∨
      u.state = .ongoing ∧ (w.readTable path table).1 = .error (.outside (.failed .locked)) := by
  have apart : (w.store.nextConnection == n) = false := by simp [Nat.ne_of_gt work.below]
  have unused : w.store.connection? w.store.nextConnection = none := by
    simp [Store.connection?, work.single, List.lookup_cons, apart]
  rcases World.readTable_committed work.leads idle.leads unused idle.alone same.symm table with
    read | ⟨locked, _⟩
  · exact .inl read
  · exact .inr ⟨work.ongoing, locked⟩

/-- After a unit has ended others read what one of its connections has seen, if that is what
was committed. -/
theorem IsOver.readTable_own {u' : UnitOfWork} {w' : World}
    (past : IsOver path file n u' w'.store) (work : AtWork path file n u w.store c)
    (kept : w'.store.committed file = w.store.visible c) (table : String) :
    (w'.readTable path table).1 = (u.ownRows w table).mapError .outside := by
  have text : ("SELECT * FROM " ++ table).toList
      = "SELECT".toList ++ ' ' :: ("* FROM ".toList ++ table.toList) := by simp
  have conn := (Store.connection?_connect past.unused file World.readingOptions.foreignKeys
    _).trans (if_pos rfl)
  have reads : w.store.mayRead n c = true := (Store.isQuiet_of_single work.single c.file).mayRead
  have reads' : (w'.store.connect file World.readingOptions.foreignKeys).2.mayRead
      w'.store.nextConnection (.fresh file World.readingOptions.foreignKeys) = true := by
    rcases past.released with ⟨_, alone⟩ | ⟨d, _, single, unlocked⟩
    · simp [Store.mayRead, Store.othersHold, Store.connect, alone]
    · simp [Store.mayRead, Store.othersHold, Store.connect, single, unlocked, Lock.atLeast,
        Lock.rank]
  rw [World.readTable_eq past.leads, Store.run_select_congr text [] work.conn conn kept
    (reads'.trans reads.symm) (by rw [reads, reads']; simp), ownRows, work.opened]
  dsimp only
  rw [Store.query_eq]
  generalize (w.store.run n ("SELECT * FROM " ++ table) []).1 = reply
  cases reply <;> rfl

theorem atWork_beginUnit {o : StoreOptions} (idle : w₀.IsIdle path file)
    (begun : w₀.beginUnit (.file path) o none = (.ok u₀, w₁)) :
    (∃ n c, AtWork path file n u₀ w₁.store c) ∧ u₀.failure = none ∧
      w₁.store.committed file = w₀.store.committed file := by
  have unused : w₀.store.connection? w₀.store.nextConnection = none := by
    simp [Store.connection?, idle.alone]
  have single : (w₀.store.connect file o.foreignKeys).2.connections
      = [(w₀.store.nextConnection, .fresh file o.foreignKeys)] := by
    simp [Store.connect, idle.alone]
  rcases World.beginUnit_file idle.leads unused o with ⟨e, w, refused, _⟩ | ⟨w, _, began, store⟩
  · cases (Prod.mk.inj (refused.symm.trans begun)).1
  · obtain ⟨unit, world⟩ := Prod.mk.inj (began.symm.trans begun)
    cases Except.ok.inj unit
    subst world
    rw [store]
    refine ⟨⟨_, _, rfl, rfl, Store.putConnection_single single _, by simp [Connection.fresh],
      by simp, idle.leads.congr rfl rfl, Nat.lt_succ_self _⟩, rfl, rfl⟩

theorem AtWork.onMedium (work : AtWork path file n u w.store c) (m : Medium) :
    AtWork path file n u (w.onMedium m).store { c with medium := m } where
  ongoing := work.ongoing
  connected := work.connected
  single := by simp [World.onMedium, work.single]
  on := work.on
  transaction := work.transaction
  leads := work.leads.congr rfl rfl
  below := work.below

/-- As long as neither a statement of the caller's own nor the medium ends the transaction, others
read the tables of the begin until a commit has succeeded, and once the unit has ended without one
nothing is left of it. When a commit succeeds, no request has failed in the store, and from then
on others read what the unit itself read just before. -/
theorem persists_only_by_commit {o : StoreOptions} (idle : w₀.IsIdle path file)
    (begun : w₀.beginUnit (.file path) o none = (.ok u₀, w₁)) (m : Medium)
    (reads : ∀ request ∈ requests, request.ReadsAs Command.KeepsTransaction) :
    ((∀ a ∈ (askAll requests u₀ (w₁.onMedium m)).1, ¬FailsByMedium a.answer) →
        (⟨.commit, .ok ()⟩ : Asked) ∉ (askAll requests u₀ (w₁.onMedium m)).1 →
        ∀ table, ((askAll requests u₀ (w₁.onMedium m)).2.2.readTable path table).1
            = (w₀.readTable path table).1 ∨
          (askAll requests u₀ (w₁.onMedium m)).2.1.state = .ongoing ∧
            ((askAll requests u₀ (w₁.onMedium m)).2.2.readTable path table).1
              = .error (.outside (.failed .locked))) ∧
      ∀ before after, requests = before ++ .commit :: after →
        ((askAll before u₀ (w₁.onMedium m)).2.1.commit
            (askAll before u₀ (w₁.onMedium m)).2.2).answer = .ok () →
          (∀ a ∈ (askAll before u₀ (w₁.onMedium m)).1, ∀ f, a.answer ≠ .error (.execution f)) ∧
            ∀ table, ((askAll requests u₀ (w₁.onMedium m)).2.2.readTable path table).1
              = ((askAll before u₀ (w₁.onMedium m)).2.1.ownRows
                  (askAll before u₀ (w₁.onMedium m)).2.2 table).mapError .outside := by
  obtain ⟨⟨n, c, begins⟩, fresh, same₀⟩ := atWork_beginUnit idle begun
  have work := begins.onMedium m
  have same₁ : (w₁.onMedium m).store.committed file = w₀.store.committed file := same₀
  generalize w₁.onMedium m = w₁ at work same₁
  constructor
  · intro unfailed none table
    obtain ⟨stage, same⟩ := work.askAll reads unfailed
    have same := (same none).trans same₁
    rcases stage with ⟨c', work⟩ | past
    · exact work.readTable idle same table
    · exact .inl (past.readTable idle same table)
  · rintro before after rfl committed
    have lives := (Lives.begun : u₀.Lives [] u₀).askAll before w₁
    obtain ⟨still, unfailed⟩ := of_commit_ok committed
    -- a commit that succeeds has nothing to report, so the medium has not failed either
    have remembered := congrArg UnitOfWork.failure (lives.unit_eq fresh still)
    have clean := noFailure_iff.mp (remembered.symm.trans unfailed)
    obtain ⟨stage, _⟩ := work.askAll
      (fun request mem => reads request (List.mem_append_left _ mem))
      fun a mem fails => fails.isExecution.elim (clean a mem)
    rw [askAll_append]
    generalize askAll before u₀ w₁ = reached at stage committed clean still
    obtain ⟨asked, u, w⟩ := reached
    refine ⟨clean, ?_⟩
    rcases stage with ⟨c', work⟩ | past
    · obtain ⟨past, ⟨_, kept⟩ | ⟨not, _⟩⟩ := work.commit
      · obtain ⟨past, same⟩ := past.askAll after
        exact past.readTable_own work (same.trans kept)
      · exact absurd committed not
    · exact absurd still past.ended

def newYear : Entry := ⟨1, none, .newYear2024⟩

/-- A statement of the caller's own, then a commit that succeeds. -/
def plainly : List Request :=
  [.call (.create entryRecord newYear), .execute .delete "T" ⟨"DELETE FROM LINKS", []⟩]

theorem persists_only_by_commit_created :
    ∃ u₀ w₁, History.quietWorld.beginUnit (.file "/a.db") .default none = (.ok u₀, w₁) ∧
      ((askAll plainly u₀ (w₁.onMedium .reliable)).2.2.readTable "/a.db" "ENTRIES").1 = .ok [] ∧
      ((askAll (plainly ++ [.commit]) u₀ (w₁.onMedium .reliable)).2.2.readTable "/a.db"
          "ENTRIES").1 = .ok [[.integer 1, .null, .text "2024-01-01"]] := by
  have reads : ∀ request ∈ plainly ++ [.commit], request.ReadsAs Command.KeepsTransaction := by
    have delete : Command.read (scan "DELETE FROM LINKS") = .ok (.delete "LINKS" none) :=
      eq_ok_of_toOption (by decide)
    intro request mem
    simp only [plainly, List.cons_append, List.nil_append, List.mem_cons, List.not_mem_nil,
      or_false] at mem
    rcases mem with rfl | rfl | rfl
    · trivial
    · exact ⟨_, delete, trivial⟩
    · trivial
  obtain ⟨u₀, w₁, begun, quiet, answer, own⟩ :
      ∃ u₀ w₁, History.quietWorld.beginUnit (.file "/a.db") .default none = (.ok u₀, w₁) ∧
        ((askAll plainly u₀ (w₁.onMedium .reliable)).2.2.readTable "/a.db" "ENTRIES").1
          = .ok [] ∧
        ((askAll plainly u₀ (w₁.onMedium .reliable)).2.1.commit
          (askAll plainly u₀ (w₁.onMedium .reliable)).2.2).answer = .ok () ∧
        (askAll plainly u₀ (w₁.onMedium .reliable)).2.1.ownRows
            (askAll plainly u₀ (w₁.onMedium .reliable)).2.2 "ENTRIES"
          = .ok [[.integer 1, .null, .text "2024-01-01"]] :=
    ⟨_, _, rfl, eq_ok_of_toOption (by decide +kernel), eq_ok_of_toOption (by decide +kernel),
      eq_ok_of_toOption (by decide +kernel)⟩
  obtain ⟨_, others⟩ := (persists_only_by_commit History.isIdle_quietWorld begun .reliable reads).2
    plainly [] rfl answer
  exact ⟨u₀, w₁, begun, quiet, by rw [others, own]; rfl⟩

/-- A statement of the caller's own that commits behind the unit's back. -/
def endedEarly : List Request :=
  [.call (.create entryRecord newYear), .execute .create "T" ⟨"COMMIT;", []⟩,
    .call (.create entryRecord newYear)]

/-- What was committed early stays, though the unit reports that it was rolled back. -/
theorem persists_of_early_commit :
    ∃ u₀ w₁ f, History.quietWorld.beginUnit (.file "/a.db") .default none = (.ok u₀, w₁) ∧
      ((askAll endedEarly u₀ w₁).2.1.commit (askAll endedEarly u₀ w₁).2.2).answer
        = .error (.commitAborted f) ∧
      (History.quietWorld.readTable "/a.db" "ENTRIES").1 = .ok [] ∧
      (((askAll endedEarly u₀ w₁).2.1.commit
          (askAll endedEarly u₀ w₁).2.2).world.readTable "/a.db" "ENTRIES").1
        = .ok [[.integer 1, .null, .text "2024-01-01"]] := by
  obtain ⟨u₀, w₁, f, begun, opened, failed, kept⟩ :
      ∃ u₀ w₁ f, History.quietWorld.beginUnit (.file "/a.db") .default none = (.ok u₀, w₁) ∧
        (askAll endedEarly u₀ w₁).2.1.openConnection? = some 0 ∧
        (askAll endedEarly u₀ w₁).2.1.failure = some f ∧
        (((askAll endedEarly u₀ w₁).2.1.commit
            (askAll endedEarly u₀ w₁).2.2).world.readTable "/a.db" "ENTRIES").1
          = .ok [[.integer 1, .null, .text "2024-01-01"]] :=
    ⟨_, _, ⟨.create, "EntryRecord", .failed (.duplicateKey "ENTRIES" "ID")⟩, rfl,
      by decide +kernel, by decide +kernel, eq_ok_of_toOption (by decide +kernel)⟩
  exact ⟨u₀, w₁, f, begun, (commit_failed opened failed).1,
    eq_ok_of_toOption (by decide +kernel), kept⟩

end UnitOfWork

end RecordStore
