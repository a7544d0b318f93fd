import RecordStore.Proofs.Store.Steps

/-!
Invariants of the engine. What its statements keep, and what files and connections that come or
go keep, holds of the store whatever is asked. What changes of rows keep of all tables is one,
and so are the numbers of connections.
-/
namespace RecordStore

open Sql

/-- No statement takes the property away. -/
structure Store.Steady (I : Store → Prop) : Prop where
  steps : ∀ s s' n c, I s → s.connection? n = some c → s.Steps n c s' → I s'

/-- The engine keeps the property whatever it is asked, if the tables that are brought have
another one. -/
structure Store.Invariant (P : Tables → Prop) (I : Store → Prop) : Prop extends Steady I where
  nothing : P []
  addFile : ∀ s f, I s → P f.tables → I (s.addFile f)
  connect : ∀ s file enforced, I s → file < s.files.length → I (s.connect file enforced).2
  close : ∀ s n, I s → I (s.close n)

/-- All tables have the property, those that are committed and those that are worked on. -/
structure Store.Holds (P : Tables → Prop) (s : Store) : Prop where
  files : ∀ f ∈ s.files, P f.tables
  works : ∀ e ∈ s.connections, ∀ ts, e.2.work = some ts → P ts

namespace Store

variable {P : Tables → Prop} {I J : Store → Prop} {s s' : Store} {n : Nat} {c : Connection}
  {ts : Tables}

namespace Steady

theorem run (steady : Steady I) (holds : I s) (n : Nat) (sql : String)
    (parameters : List Value) : I (s.run n sql parameters).2 := by
  cases conn : s.connection? n with
  | none =>
    rw [Store.run, conn]
    exact holds
  | some c => exact steady.steps s _ n c holds conn (steps_run conn sql parameters)

theorem runBatch (steady : Steady I) (holds : I s) (n : Nat) (sql : String) :
    I (s.runBatch n sql).2 := by
  cases conn : s.connection? n with
  | none =>
    rw [Store.runBatch, conn]
    exact holds
  | some c => exact steady.steps s _ n c holds conn (steps_runBatch conn sql)

theorem runCommand (steady : Steady I) (holds : I s) (n : Nat) (command : Command) :
    I (s.runCommand n command).2 := by
  cases conn : s.connection? n with
  | none =>
    rw [Store.runCommand, conn]
    exact holds
  | some c => exact steady.steps s _ n c holds conn (steps_runCommand conn command)

end Steady

theorem Steps.numbers (steps : s.Steps n c s') : s'.numbers = s.numbers := by
  cases steps with
  | refused => rfl
  | stays | begins | holds | works | releases | settles | keeps | limits =>
    exact numbers_putConnection ..

theorem steady_numbers (numbers : List Nat) : Steady fun s => s.numbers = numbers :=
  ⟨fun _ _ _ _ same _ steps => steps.numbers.trans same⟩

/-- A path that opens leads to a file of the store, or makes one. -/
theorem openPath_cases {path : String} {enforced : Bool}
    (opened : s.openPath path enforced = .ok (n, s')) :
    (∃ file, file < s.files.length ∧ (n, s') = s.connect file enforced) ∨
      ∃ place, (n, s') = (s.addFile ⟨some place, []⟩).connect s.files.length enforced := by
  unfold openPath at opened
  split at opened
  · cases opened
  split at opened
  · cases opened
  rename_i place _
  split at opened
  · rename_i file there
    have inside := (List.findIdx?_eq_some_iff_findIdx_eq.mp there).1
    exact .inl ⟨file, inside, (Except.ok.inj opened).symm⟩
  · split at opened
    · exact .inr ⟨place, (Except.ok.inj opened).symm⟩
    · cases opened

namespace Invariant

theorem and (first : Invariant P I) (second : Invariant P J) :
    Invariant P fun s => I s ∧ J s where
  nothing := first.nothing
  addFile s f holds brings :=
    ⟨first.addFile s f holds.1 brings, second.addFile s f holds.2 brings⟩
  connect s file enforced holds inside :=
    ⟨first.connect s file enforced holds.1 inside, second.connect s file enforced holds.2 inside⟩
  steps s s' n c holds conn steps :=
    ⟨first.steps s s' n c holds.1 conn steps, second.steps s s' n c holds.2 conn steps⟩
  close s n holds := ⟨first.close s n holds.1, second.close s n holds.2⟩

theorem openPrivate (invariant : Invariant P I) (holds : I s) (brings : P ts) (enforced : Bool) :
    I (s.openPrivate ts enforced).2 :=
  invariant.connect _ _ enforced (invariant.addFile s ⟨none, ts⟩ holds brings)
    (by simp [Store.addFile])

theorem openPath (invariant : Invariant P I) (holds : I s) {path : String} {enforced : Bool}
    (opened : s.openPath path enforced = .ok (n, s')) : I s' := by
  rcases openPath_cases opened with ⟨file, inside, made⟩ | ⟨place, made⟩
  · cases made
    exact invariant.connect s file enforced holds inside
  · cases made
    exact invariant.connect _ _ enforced
      (invariant.addFile s ⟨some place, []⟩ holds invariant.nothing) (by simp [Store.addFile])

end Invariant

namespace Holds

theorem committed (holds : s.Holds P) (nothing : P []) (file : Nat) : P (s.committed file) := by
  rw [Store.committed]
  cases found : s.files[file]? with
  | none => exact nothing
  | some f => exact holds.files f (List.mem_of_getElem? found)

theorem work (holds : s.Holds P) (conn : s.connection? n = some c) (ts : Tables)
    (held : c.work = some ts) : P ts :=
  holds.works (n, c) (mem_of_connection? conn) ts held

theorem visible (holds : s.Holds P) (nothing : P []) (conn : s.connection? n = some c) :
    P (s.visible c) := by
  rw [Store.visible]
  cases held : c.work with
  | none => exact holds.committed nothing c.file
  | some ts => exact holds.work conn ts held

theorem putConnection (holds : s.Holds P) (work : ∀ ts, c.work = some ts → P ts) (n : Nat) :
    (s.putConnection n c).Holds P where
  files := holds.files
  works e mem ts held := by
    rcases mem_putConnection mem with old | rfl
    · exact holds.works e old ts held
    · exact work ts held

theorem putTables (holds : s.Holds P) (tables : P ts) (file : Nat) :
    (s.putTables file ts).Holds P where
  files := by
    intro f mem
    obtain ⟨i, found⟩ := List.mem_iff_getElem?.mp mem
    rw [Store.putTables, List.getElem?_modify] at found
    obtain ⟨g, hg, equal⟩ := Option.map_eq_some_iff.mp found
    rw [← equal]
    split
    · exact tables
    · exact holds.files g (List.mem_of_getElem? hg)
  works := holds.works

theorem steps (holds : s.Holds P) (nothing : P []) (lasts : Tables.Lasts P)
    (conn : s.connection? n = some c) (steps : s.Steps n c s') : s'.Holds P := by
  have sees := holds.visible nothing conn
  have takes {c' : Connection} {work : Option Tables} {transaction : Bool} {balance : Int}
      (becomes : c.Becomes transaction work balance c') (all : ∀ ts, work = some ts → P ts)
      (ts : Tables) (held : c'.work = some ts) : P ts := all ts (becomes.work.symm.trans held)
  cases steps with
  | refused => exact holds
  | stays stays => exact holds.putConnection (takes stays (holds.work conn)) n
  | begins _ taken becomes =>
    refine holds.putConnection (takes becomes fun ts held => ?_) n
    rcases taken with none | begun
    · cases none.symm.trans held
    · cases Option.some.inj (begun.symm.trans held)
      exact holds.committed nothing c.file
  | holds _ becomes =>
    exact holds.putConnection (takes becomes fun _ held => Option.some.inj held ▸ sees) n
  | works _ changes becomes =>
    exact holds.putConnection
      (takes becomes fun _ held => Option.some.inj held ▸ changes.lasts lasts sees) n
  | settles _ changes _ stays =>
    exact (holds.putTables (changes.lasts lasts sees) c.file).putConnection
      (takes stays (holds.work conn)) n
  | keeps work _ becomes =>
    exact (holds.putTables (holds.work conn _ work) c.file).putConnection (takes becomes nofun) n
  | releases becomes => exact holds.putConnection (takes becomes nofun) n
  | limits _ stays =>
    refine holds.putConnection (fun ts held => ?_) n
    exact holds.work conn ts (stays.work.symm.trans held)

end Holds

/-- What changes of rows keep of tables is kept of all tables of the engine. -/
theorem invariant_holds (nothing : P []) (lasts : Tables.Lasts P) :
    Invariant P (Store.Holds P) where
  nothing := nothing
  addFile _ _ holds brings :=
    ⟨List.forall_mem_append.mpr ⟨holds.files, List.forall_mem_singleton.mpr brings⟩, holds.works⟩
  connect _ _ _ holds _ :=
    ⟨holds.files, List.forall_mem_append.mpr ⟨holds.works, List.forall_mem_singleton.mpr nofun⟩⟩
  steps _ _ _ _ holds conn steps := holds.steps nothing lasts conn steps
  close _ _ holds := ⟨holds.files, fun e mem => holds.works e (List.mem_filter.mp mem).1⟩

end Store

end RecordStore
