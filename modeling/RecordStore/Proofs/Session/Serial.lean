import RecordStore.Proofs.Session.Alone

/-!
Units that share a file are serialized by their commits. As long as a unit has no lock it has
seen nothing, and as long as it has one nobody else can commit, so what it was answered is what
it would be answered on its own after the units that have committed.
-/
namespace RecordStore

open Sql

structure UnitOfWork.IsConnected (s : Store) (file : Nat) (u : UnitOfWork) : Prop where
  opened : u.state = .ongoing → ∃ n, u.connection = some n
  stands : ∀ n, u.connection = some n → ∃ c, s.connection? n = some c ∧ c.file = file ∧
    c.medium = .reliable ∧ (u.state = .ongoing → c.inTransaction = true)

/-- The units under their names, the store, and the units that have committed, after a run
from a world. -/
structure Serialized (path : String) (start : World) (file : Nat)
    (units : String → Option UnitOfWork) (s : Store) (transcript : String → Transcript)
    (committed : List Transcript) : Prop where
  leads : s.LeadsTo path file
  unused : ∀ n, s.nextConnection ≤ n → s.connection? n = none
  connected : ∀ name u, units name = some u → u.IsConnected s file
  apart : ∀ a b u v n, units a = some u → units b = some v → u.connection = some n →
    v.connection = some n → a = b
  /-- The committed tables matter to a unit only once it has a lock. -/
  reaches : ∀ name u n c, units name = some u → u.state = .ongoing → u.failure = none →
    u.connection = some n → s.connection? n = some c → ∀ w, w.IsIdle path file →
      (c.lock ≠ .none → w.store.committed file = s.committed file) →
        (transcript name).Reaches path w u.filterMode c
  serial : ∃ w, Serially path file start committed w ∧ w.IsIdle path file ∧
    w.store.committed file = s.committed file

namespace Serialized

variable {path : String} {start : World} {file : Nat} {units : String → Option UnitOfWork}
  {s s' : Store} {transcript transcript' : String → Transcript}
  {committed committed' : List Transcript} {name : String} {u : UnitOfWork} {n : Nat}
  {c : Connection}

def Owns (units : String → Option UnitOfWork) (s : Store) (name : String) (n : Nat) : Prop :=
  n < s.nextConnection ∧ ∀ other v, other ≠ name → units other = some v → v.connection ≠ some n

theorem owns (inv : Serialized path start file units s transcript committed)
    (unit : units name = some u) (connection : u.connection = some n) :
    Owns units s name n := by
  constructor
  · obtain ⟨c, conn, _⟩ := (inv.connected name u unit).stands n connection
    by_contra beyond
    rw [inv.unused n (Nat.not_lt.mp beyond)] at conn
    cases conn
  · intro other v apart unit' connection'
    exact apart (inv.apart other name v u n unit' unit connection' connection)

/-- One unit moves. The others keep their connections, and the committed tables change only if
nobody else has a lock. -/
theorem update (inv : Serialized path start file units s transcript committed)
    (own : Owns units s name n) (leads : s'.LeadsTo path file)
    (next : s'.nextConnection = s.nextConnection)
    (others : ∀ m, m ≠ n → s'.connection? m = s.connection? m)
    (undisturbed : s'.committed file = s.committed file ∨
      ∀ m c, m ≠ n → s.connection? m = some c → c.file = file → c.lock = .none)
    {moved : Option UnitOfWork}
    (connected : ∀ u', moved = some u' →
      u'.IsConnected s' file ∧ ∀ m, u'.connection = some m → m = n)
    (same : ∀ other, other ≠ name → transcript' other = transcript other)
    (reaches : ∀ u' c, moved = some u' → u'.state = .ongoing → u'.failure = none →
      s'.connection? n = some c → ∀ w, w.IsIdle path file →
        (c.lock ≠ .none → w.store.committed file = s'.committed file) →
          (transcript' name).Reaches path w u'.filterMode c)
    (serial : ∃ w, Serially path file start committed' w ∧ w.IsIdle path file ∧
      w.store.committed file = s'.committed file) :
    Serialized path start file (Function.update units name moved) s' transcript' committed' := by
  obtain ⟨used, owned⟩ := own
  have elsewhere : ∀ other v m, other ≠ name → units other = some v → v.connection = some m →
      m ≠ n := by
    intro other v m apart unit connection same
    subst same
    exact owned other v apart unit connection
  constructor
  · exact leads
  · intro m beyond
    rw [next] at beyond
    rw [others m (by omega)]
    exact inv.unused m beyond
  · intro other v unit'
    by_cases here : other = name
    · subst here
      rw [Function.update_self] at unit'
      exact (connected v unit').1
    · rw [Function.update_of_ne here] at unit'
      obtain ⟨opened, stands⟩ := inv.connected other v unit'
      refine ⟨opened, fun m connection' => ?_⟩
      obtain ⟨d, conn, rest⟩ := stands m connection'
      exact ⟨d, by rw [others m (elsewhere other v m here unit' connection'), conn], rest⟩
  · intro a b v v' m unit_a unit_b connection_a connection_b
    by_cases here_a : a = name
    · by_cases here_b : b = name
      · rw [here_a, here_b]
      · subst here_a
        rw [Function.update_self] at unit_a
        rw [Function.update_of_ne here_b] at unit_b
        exact absurd ((connected v unit_a).2 m connection_a)
          (elsewhere b v' m here_b unit_b connection_b)
    · rw [Function.update_of_ne here_a] at unit_a
      by_cases here_b : b = name
      · subst here_b
        rw [Function.update_self] at unit_b
        exact absurd ((connected v' unit_b).2 m connection_b)
          (elsewhere a v m here_a unit_a connection_a)
      · rw [Function.update_of_ne here_b] at unit_b
        exact inv.apart a b v v' m unit_a unit_b connection_a connection_b
  · intro other v m d unit' ongoing clean connection' conn w idle agrees
    by_cases here : other = name
    · subst here
      rw [Function.update_self] at unit'
      rw [(connected v unit').2 m connection'] at conn
      exact reaches v d unit' ongoing clean conn w idle agrees
    · rw [Function.update_of_ne here] at unit'
      have apart := elsewhere other v m here unit' connection'
      rw [others m apart] at conn
      rw [same other here]
      refine inv.reaches other v m d unit' ongoing clean connection' conn w idle fun locked => ?_
      -- if the committed tables change, this unit has no lock yet and has seen none of them
      rcases undisturbed with kept | free
      · rw [← kept]
        exact agrees locked
      · obtain ⟨d', conn', file', _⟩ := (inv.connected other v unit').stands m connection'
        cases Option.some.inj (conn.symm.trans conn')
        exact absurd (free m d apart conn file') locked
  · exact serial

theorem transcribed (inv : Serialized path start file units s transcript committed)
    (same : ∀ other, other ≠ name → transcript' other = transcript other)
    (reaches : ∀ u n c, units name = some u → u.state = .ongoing → u.failure = none →
      u.connection = some n → s.connection? n = some c → ∀ w, w.IsIdle path file →
        (c.lock ≠ .none → w.store.committed file = s.committed file) →
          (transcript' name).Reaches path w u.filterMode c) :
    Serialized path start file units s transcript' committed := by
  refine ⟨inv.leads, inv.unused, inv.connected, inv.apart, ?_, inv.serial⟩
  intro other v m d unit ongoing
  by_cases here : other = name
  · subst here
    exact reaches v m d unit ongoing
  · rw [same other here]
    exact inv.reaches other v m d unit ongoing

theorem connection_of_ongoing (inv : Serialized path start file units s transcript committed)
    (unit : units name = some u) (ongoing : u.state = .ongoing) :
    ∃ n c, u.connection = some n ∧ s.connection? n = some c ∧ c.file = file ∧
      c.medium = .reliable ∧ c.inTransaction = true := by
  obtain ⟨n, connection⟩ := (inv.connected name u unit).opened ongoing
  obtain ⟨c, conn, on, reliable, transaction⟩ := (inv.connected name u unit).stands n connection
  exact ⟨n, c, connection, conn, on, reliable, transaction ongoing⟩

theorem update_same (unit : units name = some u) :
    Function.update units name (some u) = units := by
  rw [← unit]
  exact Function.update_eq_self name units

theorem ended (inv : Serialized path start file units s transcript committed)
    (unit : units name = some u) (connection : u.connection = some n)
    (conn : s.connection? n = some c) (on : c.file = file) (reliable : c.medium = .reliable)
    {u' : UnitOfWork} (keeps : u'.connection = u.connection) (finished : u'.state ≠ .ongoing) :
    Serialized path start file (Function.update units name (some u'))
      (s.putConnection n c.released) transcript committed := by
  have leads : (s.putConnection n c.released).LeadsTo path file := inv.leads.congr rfl rfl
  apply inv.update (inv.owns unit connection) leads rfl
  · intro m apart
    exact Store.connection?_putConnection_other apart _
  · exact .inl rfl
  · intro v moved
    cases moved
    refine ⟨⟨fun ongoing => absurd ongoing finished, ?_⟩, ?_⟩
    · intro m connection'
      rw [keeps, connection] at connection'
      cases connection'
      exact ⟨c.released, Store.connection?_putConnection_self conn _, on, reliable,
        fun ongoing => absurd ongoing finished⟩
    · intro m connection'
      rw [keeps, connection] at connection'
      exact (Option.some.inj connection').symm
  · intro other _
    rfl
  · intro v d moved ongoing
    cases moved
    exact absurd ongoing finished
  · exact inv.serial

theorem closed (inv : Serialized path start file units s transcript committed)
    (unit : units name = some u) (connection : u.connection = some n)
    {moved : Option UnitOfWork}
    (disconnected : ∀ v, moved = some v → v.connection = none ∧ v.state ≠ .ongoing) :
    Serialized path start file (Function.update units name moved) (s.close n) transcript
      committed := by
  have leads : (s.close n).LeadsTo path file := inv.leads.congr rfl rfl
  apply inv.update (inv.owns unit connection) leads rfl
  · intro m apart
    rw [Store.connection?_close, if_neg apart]
  · exact .inl rfl
  · intro v hmoved
    obtain ⟨off, finished⟩ := disconnected v hmoved
    refine ⟨⟨fun ongoing => absurd ongoing finished, ?_⟩, ?_⟩
    · intro m connection'
      rw [off] at connection'
      cases connection'
    · intro m connection'
      rw [off] at connection'
      cases connection'
  · intro other _
    rfl
  · intro v d hmoved ongoing
    exact absurd ongoing (disconnected v hmoved).2
  · exact inv.serial

theorem forgotten (inv : Serialized path start file units s transcript committed)
    (name : String) :
    Serialized path start file (Function.update units name none) s transcript committed := by
  have kept : ∀ other v, Function.update units name none other = some v →
      units other = some v := by
    intro other v found
    by_cases here : other = name
    · rw [here, Function.update_self] at found
      cases found
    · rwa [Function.update_of_ne here] at found
  constructor
  · exact inv.leads
  · exact inv.unused
  · intro other v unit
    exact inv.connected other v (kept other v unit)
  · intro a b v v' m unit_a unit_b
    exact inv.apart a b v v' m (kept a v unit_a) (kept b v' unit_b)
  · intro other v m d unit
    exact inv.reaches other v m d (kept other v unit)
  · exact inv.serial

end Serialized

end RecordStore
