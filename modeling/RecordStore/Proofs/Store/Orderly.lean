import RecordStore.Proofs.Store.Invariants

/-!
Stores in order. The connections of an engine at work have files that are there, outside a
transaction they work on nothing, and no table has two rows of one key.
-/
namespace RecordStore

open Sql

/-- Connections have numbers that were given out and files that are there, outside a transaction
they work on no tables, and in all tables each row has a key of its own. -/
structure Store.IsOrderly (s : Store) : Prop where
  numbered : s.IsNumbered
  settled : ∀ e ∈ s.connections, e.2.IsSettled
  keyed : s.Holds fun ts => ∀ t ∈ ts, t.IsKeyed

namespace Store

variable {s s' : Store} {n : Nat} {c : Connection}

/-- A statement changes its own connection and no other, and makes neither files nor numbers. -/
theorem Steps.connections (steps : s.Steps n c s') :
    s'.files.length = s.files.length ∧ s'.nextConnection = s.nextConnection ∧
      ∀ e ∈ s'.connections, e ∈ s.connections ∨
        e.1 = n ∧ e.2.file = c.file ∧ (c.IsSettled → e.2.IsSettled) := by
  have put {c' : Connection} (file : c'.file = c.file) (settled : c.IsSettled → c'.IsSettled) :
      ∀ e ∈ (s.putConnection n c').connections, e ∈ s.connections ∨
        e.1 = n ∧ e.2.file = c.file ∧ (c.IsSettled → e.2.IsSettled) := by
    intro e mem
    rcases mem_putConnection mem with old | rfl
    · exact .inl old
    · exact .inr ⟨rfl, file, settled⟩
  have files (ts : Tables) : (s.putTables c.file ts).files.length = s.files.length :=
    List.length_modify ..
  cases steps with
  | refused => exact ⟨rfl, rfl, fun e mem => .inl mem⟩
  | stays stays => exact ⟨rfl, rfl, put stays.file fun settled => settled.stays stays⟩
  | begins _ _ becomes | holds _ becomes | works _ _ becomes =>
    exact ⟨rfl, rfl, put becomes.file fun _ => .of_transaction becomes.inTransaction⟩
  | settles _ _ _ stays => exact ⟨files _, rfl, put stays.file fun settled => settled.stays stays⟩
  | keeps _ _ becomes => exact ⟨files _, rfl, put becomes.file fun _ => becomes.isSettled⟩
  | releases becomes => exact ⟨rfl, rfl, put becomes.file fun _ => becomes.isSettled⟩
  | @limits c' _ stays =>
    have file : c'.file = c.file := stays.file
    exact ⟨rfl, rfl, put file fun settled => settled.limited stays⟩

theorem isOrderly_empty (directories : List (List String)) : (empty directories).IsOrderly :=
  ⟨nofun, nofun, nofun, nofun⟩

theorem invariant_isNumbered {P : Tables → Prop} (nothing : P []) : Invariant P IsNumbered where
  nothing := nothing
  addFile s f numbered _ e mem := by
    obtain ⟨below, inside⟩ := numbered e mem
    exact ⟨below, by simpa [addFile] using Nat.lt_succ_of_lt inside⟩
  connect s file enforced numbered inside := by
    refine List.forall_mem_append.mpr ⟨fun e mem => ?_, List.forall_mem_singleton.mpr ?_⟩
    · obtain ⟨below, inside⟩ := numbered e mem
      exact ⟨Nat.lt_succ_of_lt below, inside⟩
    · exact ⟨Nat.lt_succ_self _, inside⟩
  steps s s' n c numbered conn steps e mem := by
    obtain ⟨files, numbers, connections⟩ := steps.connections
    rw [files, numbers]
    rcases connections e mem with old | ⟨number, file, _⟩
    · exact numbered e old
    · rw [number, file]
      exact numbered (n, c) (mem_of_connection? conn)
  close s n numbered e mem := numbered e (List.mem_filter.mp mem).1

/-- Outside transactions nothing is worked on. -/
theorem invariant_isSettled {P : Tables → Prop} (nothing : P []) :
    Invariant P fun s => ∀ e ∈ s.connections, e.2.IsSettled where
  nothing := nothing
  addFile _ _ settled _ := settled
  connect _ _ _ settled _ :=
    List.forall_mem_append.mpr ⟨settled, List.forall_mem_singleton.mpr fun _ => ⟨rfl, rfl⟩⟩
  steps s s' n c settled conn steps e mem := by
    obtain ⟨_, _, connections⟩ := steps.connections
    rcases connections e mem with old | ⟨_, _, goes_on⟩
    · exact settled e old
    · exact goes_on (settled (n, c) (mem_of_connection? conn))
  close _ _ settled e mem := settled e (List.mem_filter.mp mem).1

/-- An engine that starts in order stays so, whatever it is asked. -/
theorem invariant_isOrderly : Invariant (fun ts => ∀ t ∈ ts, t.IsKeyed) IsOrderly := by
  have numbered := invariant_isNumbered (P := fun ts => ∀ t ∈ ts, t.IsKeyed) nofun
  have keyed := invariant_holds nofun Tables.lasts_keyed
  have parts : IsOrderly = fun s => s.IsNumbered ∧ (∀ e ∈ s.connections, e.2.IsSettled) ∧
      s.Holds fun ts => ∀ t ∈ ts, t.IsKeyed :=
    funext fun s => propext
      ⟨fun orderly => ⟨orderly.numbered, orderly.settled, orderly.keyed⟩,
        fun ⟨numbered, settled, keyed⟩ => ⟨numbered, settled, keyed⟩⟩
  rw [parts]
  exact numbered.and ((invariant_isSettled nofun).and keyed)

end Store

end RecordStore
