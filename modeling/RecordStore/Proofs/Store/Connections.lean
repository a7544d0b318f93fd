import RecordStore.Store.Connection

/-!
Frames of the store. Putting a connection back changes that connection and nothing else, and
locks are only ever looked at on other connections.
-/
namespace RecordStore

theorem lookup_filter {κ α : Type} [DecidableEq κ] (entries : List (κ × α)) (key other : κ) :
    (entries.filter (·.1 != key)).lookup other
      = if other = key then none else entries.lookup other := by
  induction entries with
  | nil => simp
  | cons e rest ih =>
    obtain ⟨k, a⟩ := e
    by_cases here : k = key
    · subst here
      rw [List.filter_cons_of_neg (by simp), ih]
      by_cases same : other = k
      · rw [if_pos same, if_pos same]
      · have apart : (other == k) = false := beq_eq_false_iff_ne.mpr same
        simp [same, List.lookup_cons, apart]
    · by_cases found : other = k
      · subst found
        simp [here]
      · have apart : (other == k) = false := beq_eq_false_iff_ne.mpr found
        simp [here, List.lookup_cons, apart, ih]

namespace Medium

@[simp] theorem onWrite_reliable (committed tables : Tables) :
    reliable.onWrite committed tables = none := rfl

@[simp] theorem onCommit_reliable (committed tables : Tables) :
    reliable.onCommit committed tables = none := rfl

end Medium

namespace Connection

@[simp] theorem locked_file (c : Connection) (l : Lock) : (c.locked l).file = c.file := by
  unfold locked
  split <;> rfl

@[simp] theorem locked_inTransaction (c : Connection) (l : Lock) :
    (c.locked l).inTransaction = c.inTransaction := by
  unfold locked
  split <;> rfl

@[simp] theorem locked_work (c : Connection) (l : Lock) : (c.locked l).work = c.work := by
  unfold locked
  split <;> rfl

@[simp] theorem locked_enforced (c : Connection) (l : Lock) :
    (c.locked l).enforced = c.enforced := by
  unfold locked
  split <;> rfl

@[simp] theorem locked_openReferences (c : Connection) (l : Lock) :
    (c.locked l).openReferences = c.openReferences := by
  unfold locked
  split <;> rfl

@[simp] theorem locked_medium (c : Connection) (l : Lock) :
    (c.locked l).medium = c.medium := by
  unfold locked
  split <;> rfl

end Connection

namespace Store

variable {s : Store} {id other : Nat} {c d : Connection}

@[simp] theorem committed_putConnection (s : Store) (id : Nat) (c : Connection) (file : Nat) :
    (s.putConnection id c).committed file = s.committed file := rfl

@[simp] theorem visible_putConnection (s : Store) (id : Nat) (c d : Connection) :
    (s.putConnection id c).visible d = s.visible d := rfl

theorem visible_eq (s : Store) (file : d.file = c.file) (work : d.work = c.work) :
    s.visible d = s.visible c := by
  rw [visible, visible, file, work]

theorem lookup_putConnection (connections : List (Nat × Connection)) (id other : Nat)
    (c : Connection) :
    (connections.map fun (i, d) => if i = id then (i, c) else (i, d)).lookup other
      = (connections.lookup other).map fun d => if other = id then c else d := by
  induction connections with
  | nil => rfl
  | cons e rest ih =>
    obtain ⟨i, d⟩ := e
    by_cases found : other = i
    · subst found
      by_cases same : other = id <;> simp [same]
    · have apart : (other == i) = false := beq_eq_false_iff_ne.mpr found
      by_cases same : i = id
      · subst same
        simp only [List.map_cons, if_true, List.lookup_cons, apart, ih]
      · simp only [List.map_cons, if_neg same, List.lookup_cons, apart, ih]

theorem connection?_putConnection_self (h : s.connection? id = some d) (c : Connection) :
    (s.putConnection id c).connection? id = some c := by
  rw [connection?] at h
  simp [connection?, putConnection, lookup_putConnection, h]

theorem connection?_putConnection_other (apart : other ≠ id) (c : Connection) :
    (s.putConnection id c).connection? other = s.connection? other := by
  simp [connection?, putConnection, lookup_putConnection, apart]

theorem mem_putConnection {e : Nat × Connection} (mem : e ∈ (s.putConnection id c).connections) :
    e ∈ s.connections ∨ e = (id, c) := by
  obtain ⟨⟨i, d⟩, hd, rfl⟩ := List.mem_map.mp mem
  dsimp only
  split
  · rename_i here
    exact .inr (here ▸ rfl)
  · exact .inl hd

@[simp] theorem putConnection_putConnection (s : Store) (id : Nat) (c d : Connection) :
    (s.putConnection id c).putConnection id d = s.putConnection id d := by
  unfold putConnection
  congr 1
  rw [List.map_map]
  refine List.map_congr_left fun e _ => ?_
  dsimp only [Function.comp]
  by_cases same : e.1 = id <;> simp [same]

@[simp] theorem othersHold_putConnection (s : Store) (id : Nat) (c : Connection) (file : Nat)
    (l : Lock) : (s.putConnection id c).othersHold id file l = s.othersHold id file l := by
  unfold othersHold putConnection
  rw [List.any_map]
  refine congrArg (fun f => List.any s.connections f) (funext fun e => ?_)
  dsimp only [Function.comp]
  by_cases same : e.1 = id <;> simp [same]

@[simp] theorem mayRead_putConnection (s : Store) (id : Nat) (c d : Connection) :
    (s.putConnection id c).mayRead id d = s.mayRead id d := by
  simp [mayRead]

@[simp] theorem mayWrite_putConnection (s : Store) (id : Nat) (c d : Connection) :
    (s.putConnection id c).mayWrite id d = s.mayWrite id d := by
  simp [mayWrite]

@[simp] theorem mayCommit_putConnection (s : Store) (id : Nat) (c d : Connection) :
    (s.putConnection id c).mayCommit id d = s.mayCommit id d := by
  simp [mayCommit]

theorem connection?_close (s : Store) (id other : Nat) :
    (s.close id).connection? other = if other = id then none else s.connection? other :=
  lookup_filter ..

theorem mem_of_connection? (conn : s.connection? id = some c) : (id, c) ∈ s.connections := by
  obtain ⟨before, after, split, _⟩ := List.lookup_eq_some_iff.mp conn
  rw [split]
  exact List.mem_append_right before (List.mem_cons_self ..)

/-! ## Numbers of connections -/

def numbers (s : Store) : List Nat := s.connections.map Prod.fst

theorem mem_numbers : id ∈ s.numbers ↔ ∃ c, s.connection? id = some c := by
  constructor
  · intro mem
    obtain ⟨e, he, rfl⟩ := List.mem_map.mp mem
    refine Option.ne_none_iff_exists'.mp fun missing => ?_
    simpa using List.lookup_eq_none_iff.mp missing e he
  · rintro ⟨c, conn⟩
    exact List.mem_map_of_mem (mem_of_connection? conn)

@[simp] theorem numbers_putConnection (s : Store) (id : Nat) (c : Connection) :
    (s.putConnection id c).numbers = s.numbers := by
  rw [numbers, numbers, putConnection, List.map_map]
  refine List.map_congr_left fun e _ => ?_
  dsimp only [Function.comp]
  split
  · rename_i here
    exact here.symm ▸ rfl
  · rfl

theorem numbers_close (s : Store) (id : Nat) :
    (s.close id).numbers = s.numbers.filter (· != id) := by
  rw [numbers, numbers, close, List.filter_map]
  rfl

theorem numbers_connect (s : Store) (file : Nat) (enforced : Bool) :
    (s.connect file enforced).2.numbers = s.numbers ++ [s.nextConnection] :=
  List.map_append

theorem lock_of_mayCommit (may : s.mayCommit id c = true) (apart : other ≠ id)
    (conn : s.connection? other = some d) (on : d.file = c.file) : d.lock = .none := by
  have mem := mem_of_connection? conn
  simp only [mayCommit, othersHold, Bool.not_eq_true', List.any_eq_false] at may
  have free := may (other, d) mem
  cases lock : d.lock with
  | none => rfl
  | shared | reserved | pending | exclusive =>
    exact absurd (by simp [apart, on, lock, Lock.atLeast, Lock.rank]) free

def IsNumbered (s : Store) : Prop :=
  ∀ e ∈ s.connections, e.1 < s.nextConnection ∧ e.2.file < s.files.length

theorem IsNumbered.unused (numbered : s.IsNumbered) :
    s.connection? s.nextConnection = none := by
  apply List.lookup_eq_none_iff.mpr
  intro e mem
  have below := (numbered e mem).1
  exact bne_iff_ne.mpr (by omega)

theorem IsNumbered.not_mem_numbers (numbered : s.IsNumbered) : s.nextConnection ∉ s.numbers := by
  rw [mem_numbers, numbered.unused]
  rintro ⟨_, ⟨⟩⟩

theorem connection?_connect (unused : s.connection? s.nextConnection = none) (file : Nat)
    (enforced : Bool) (other : Nat) :
    (s.connect file enforced).2.connection? other
      = if other = s.nextConnection then some (.fresh file enforced)
        else s.connection? other := by
  rw [connection?] at unused
  by_cases same : other = s.nextConnection
  · simp [connection?, connect, List.lookup_append, same, unused]
  · have apart : (other == s.nextConnection) = false := beq_eq_false_iff_ne.mpr same
    simp [connection?, connect, List.lookup_append, same, List.lookup_cons, apart]

theorem connection?_openPrivate (numbered : s.IsNumbered) (tables : Tables) (enforced : Bool) :
    (s.openPrivate tables enforced).2.connection? s.nextConnection
      = some (.fresh s.files.length enforced) := by
  have unused : (s.addFile ⟨none, tables⟩).connection? (s.addFile ⟨none, tables⟩).nextConnection
      = none := numbered.unused
  exact (connection?_connect unused s.files.length enforced _).trans (if_pos rfl)

theorem othersHold_openPrivate (numbered : s.IsNumbered) (tables : Tables) (enforced : Bool)
    (l : Lock) :
    (s.openPrivate tables enforced).2.othersHold s.nextConnection s.files.length l = false := by
  simp only [openPrivate, connect, addFile, othersHold, List.any_append, List.any_cons,
    List.any_nil, Bool.or_eq_false_iff]
  refine ⟨List.any_eq_false.mpr fun e mem => ?_, by simp⟩
  have below := (numbered e mem).2
  have apart : (e.2.file == s.files.length) = false := by
    rw [beq_eq_false_iff_ne]
    omega
  simp [apart]

end Store

end RecordStore
