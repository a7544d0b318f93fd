import Mathlib.Data.List.Infix
import RecordStore.Proofs.Entry.Changed
import RecordStore.Proofs.Session.Moves
import RecordStore.Proofs.Store.Enforced

/-!
Links over runs of units that enforce foreign keys. Units may leave links without their entries
and mend them later, but as long as the engine refuses to commit in between nobody else ever
sees such a link. It does refuse unless a link refers to the least key as a real.
-/
namespace RecordStore

open Sql

/-! ## Dangling links -/

namespace Tables

/-- Every row of LINKS refers to a row of ENTRIES. -/
def AreLinked (ts : Tables) : Prop :=
  ∀ links ∈ ts.table? "LINKS", ∀ r ∈ links.rows,
    ∃ key, r.target = .integer key ∧ ts.hasKey "ENTRIES" key = true

def hasTarget (ts : Tables) (r : Row) : Bool :=
  match r.target with
  | .integer key => ts.hasKey "ENTRIES" key
  | _ => false

theorem hasTarget_iff {ts : Tables} {r : Row} :
    ts.hasTarget r = true ↔ ∃ key, r.target = .integer key ∧ ts.hasKey "ENTRIES" key = true := by
  unfold hasTarget
  cases r.target <;> simp

instance (ts : Tables) : Decidable ts.AreLinked :=
  decidable_of_iff (∀ links ∈ ts.table? "LINKS", ∀ r ∈ links.rows, ts.hasTarget r = true) (by
    simp only [AreLinked, hasTarget_iff])

variable {ts : Tables} {e l i : Table}

theorem AreStored.areLinked_iff (stored : ts.AreStored e l i) :
    ts.AreLinked ↔ openLinks e l.rows = 0 := by
  have found : ts.table? "LINKS" = some l := by
    have mem : l ∈ ts := by simp [stored.shape]
    rw [← stored.table?_self mem, stored.names.2.1]
  rw [AreLinked, found, openLinks, List.countP_eq_zero]
  constructor
  · intro linked r mem
    obtain ⟨key, target, present⟩ := linked l rfl r mem
    rw [stored.hasKey_entries] at present
    simp [Row.lacks, target, present]
  · rintro none links given r mem
    cases Option.some.inj given
    have solid := none r mem
    unfold Row.lacks at solid
    split at solid
    · rename_i key target
      exact ⟨key, target, by simpa [stored.hasKey_entries] using solid⟩
    · exact absurd rfl solid

theorem isBalanced_of_areLinked (are : ts.AreOf [entriesLayout, linksLayout, itemsLayout])
    (linked : ts.AreLinked) : Work.IsBalanced ⟨ts, 0⟩ := by
  obtain ⟨e, _, rfl, ofEntries, others⟩ := List.map_eq_cons_iff.mp are.layouts
  obtain ⟨l, _, rfl, ofLinks, others⟩ := List.map_eq_cons_iff.mp others
  obtain ⟨i, _, rfl, ofItems, others⟩ := List.map_eq_cons_iff.mp others
  cases List.map_eq_nil_iff.mp others
  have found : table? [e, l, i] "LINKS" = some l := by
    have first : Schema.sameName e.layout.name "LINKS" = false := by
      rw [ofEntries]
      decide
    have second : Schema.sameName l.layout.name "LINKS" = true := by
      rw [ofLinks]
      decide
    simp [table?, first, second]
  have stored : AreStored [e, l, i] e l i := by
    refine ⟨rfl, ofEntries, ofLinks, ofItems, are.keyed, fun r mem => ?_⟩
    obtain ⟨key, target, _⟩ := linked l found r mem
    exact ⟨by rw [target]; rfl, by simp [target]⟩
  exact ⟨e, l, i, stored, by rw [stored.areLinked_iff.mp linked]; rfl⟩

end Tables

/-- While a link of what it sees has no entry, a connection that enforces foreign keys cannot
commit. -/
def Store.RefusesDangling (s : Store) (file : Nat) : Prop :=
  ∀ n c, s.connection? n = some c → c.file = file → c.enforced = true →
    c.inTransaction = true → ¬(s.visible c).AreLinked →
      ∃ e, (s.runCommand n .commit).1 = .error e

theorem Store.Enforces.refusesDangling {s : Store} {file : Nat}
    (holds : s.Enforces Work.IsBalanced file) : s.RefusesDangling file := by
  intro n c conn on _ transaction dangling
  obtain ⟨e, l, i, stored, balance⟩ := holds.sees (holds.connections n c conn on) on
  have several : openLinks e l.rows ≠ 0 := fun none => dangling (stored.areLinked_iff.mpr none)
  have unbalanced : 0 < c.openReferences := by
    have counted : c.openReferences = openLinks e l.rows := balance
    omega
  refine ⟨.failed .danglingReference, ?_⟩
  simp only [Store.runCommand, conn, Store.step, Store.commit, transaction, unbalanced]
  rfl

/-! ## Steps -/

/-- A unit begins only on a connection that enforces foreign keys. -/
def Step.EnforcesKeys : Step → Prop
  | .begin _ options => options.foreignKeys = true
  | _ => True

namespace Session

/-- Some unit sees the tables. -/
def Sees (s : Session) (ts : Tables) : Prop := ∃ p ∈ s.units, p.2.tables? s.world = some ts

/-- No unit sees a link to the least key as a real. -/
def IsTame (s : Session) : Prop := ∀ p ∈ s.units, ∀ ts ∈ p.2.tables? s.world, ts.IsTame

instance (s : Session) : Decidable s.IsTame :=
  inferInstanceAs (Decidable (∀ p ∈ s.units, ∀ ts ∈ p.2.tables? s.world, ts.IsTame))

variable {file n : Nat} {s : Session} {name : String} {u : UnitOfWork} {c : Connection}
  {P : Work → Prop} {step : Step} {s' : Store}

theorem HasOpen.tables?_eq (here : s.HasOpen file name u n c) :
    u.tables? s.world = some (s.world.store.visible c) := by
  simp [UnitOfWork.tables?, here.opened, here.conn]

theorem HasOpen.sees (here : s.HasOpen file name u n c) :
    s.Sees (s.world.store.visible c) := by
  obtain ⟨before, after, split, _⟩ := List.lookup_eq_some_iff.mp here.unit
  refine ⟨(name, u), ?_, here.tables?_eq⟩
  rw [split]
  exact List.mem_append_right before (List.mem_cons_self ..)

/-- Only a commit changes what is committed, and then it is what the unit sees. -/
theorem Moves.committed (moves : s.Moves file step s')
    (inside : file < s.world.store.files.length) :
    s'.committed file = s.world.store.committed file ∨
      ∃ name u n c, s.HasOpen file name u n c ∧ s.world.store.mayKeep n c = true ∧
        s'.committed file = s.world.store.visible c := by
  cases moves with
  | stays | refused | begun | replaced | called | released | closed => exact .inl rfl
  | @kept name u n c here may =>
    refine .inr ⟨name, u, n, c, here, may, ?_⟩
    have on := here.on
    subst on
    exact Store.committed_keep inside n

/-- A step leaves the property on the file if the changes of what some unit sees keep it. -/
theorem Moves.enforces (moves : s.Moves file step s') (holds : s.world.store.Enforces P file)
    (unused : s.world.store.connection? s.world.store.nextConnection = none)
    (enforced : step.EnforcesKeys)
    (changed : ∀ ts count w, s.Sees ts → P ⟨ts, count⟩ → Work.Changes true ⟨ts, count⟩ w →
      P w) : s'.Enforces P file := by
  have begun (o : StoreOptions) (enforced : o.foreignKeys = true) :
      (s.world.store.begunOn file o).Enforces P file := by
    rw [Store.begunOn, enforced]
    obtain ⟨work, taken, becomes⟩ :=
      (Connection.fresh file true).becomes_begun (s.world.store.committed file) o.transactionMode
    exact (holds.connect unused).put
      ((Connection.keeps_fresh file).begins rfl holds.committed taken becomes) _
  cases moves with
  | stays => exact holds
  | refused name o =>
    have enforced : o.foreignKeys = true := enforced
    rw [enforced]
    exact (holds.connect unused).close _
  | begun name o => exact begun o enforced
  | replaced name o m => exact (begun o enforced).close m
  | @called name u n c c' here call runs =>
    rcases runs with same | ⟨sql, parameters, ran⟩
    · rw [same]
      exact holds
    · rw [ran]
      have keeps := holds.connections n c here.conn here.on
      refine holds.steps keeps here.on (fun w changes => ?_)
        (Store.steps_run here.conn sql parameters)
      have sees := holds.sees keeps here.on
      exact changed _ _ w here.sees sees changes
  | @kept name u n c here may =>
    have keeps := holds.connections n c here.conn here.on
    have closed : c.openReferences ≤ 0 := by
      simp only [Store.mayKeep, Bool.and_eq_true, decide_eq_true_eq] at may
      exact may.1
    exact holds.keep keeps here.on closed n
  | @released name u n c step here =>
    exact holds.put ((holds.connections n c here.conn here.on).ends c.becomes_released) n
  | closed step n => exact holds.close n

end Session

/-! ## Runs -/

namespace History

variable {path : String} {start : World} {file : Nat} {h : History} {P : Work → Prop}
  {steps : List Step}

theorem IsSerialized.unused (inv : h.IsSerialized path start file) :
    h.session.world.store.connection? h.session.world.store.nextConnection = none :=
  Serialized.unused inv _ (Nat.le_refl _)

theorem IsSerialized.enforces (inv : h.IsSerialized path start file)
    (holds : h.session.world.store.Enforces P file) (enforced : ∀ step ∈ steps, step.EnforcesKeys)
    (changed : ∀ before, before <+: steps → ∀ ts count w, (h.run path before).session.Sees ts →
      P ⟨ts, count⟩ → Work.Changes true ⟨ts, count⟩ w → P w) :
    (h.run path steps).session.world.store.Enforces P file := by
  induction steps generalizing h with
  | nil => exact holds
  | cons step rest ih =>
    obtain ⟨first, others⟩ := List.forall_mem_cons.mp enforced
    refine ih (inv.step step) ?_ others fun before leads => ?_
    · exact (inv.moves step).enforces holds inv.unused first (changed [] List.nil_prefix)
    · exact changed (step :: before) (List.cons_prefix_cons.mpr ⟨rfl, leads⟩)

/-- As long as the engine refuses to commit dangling links, nothing that is committed has one. -/
theorem IsSerialized.areLinked (inv : h.IsSerialized path start file)
    (holds : h.session.world.store.Enforces (fun _ => True) file)
    (linked : (h.session.world.store.committed file).AreLinked)
    (enforced : ∀ step ∈ steps, step.EnforcesKeys)
    (refuses : ∀ before, before <+: steps →
      (h.run path before).session.world.store.RefusesDangling file) :
    ((h.run path steps).session.world.store.committed file).AreLinked := by
  induction steps generalizing h with
  | nil => exact linked
  | cons step rest ih =>
    obtain ⟨first, others⟩ := List.forall_mem_cons.mp enforced
    have moves := inv.moves step
    have holds' := moves.enforces holds inv.unused first fun _ _ _ _ _ _ => trivial
    refine ih (inv.step step) holds' ?_ others fun before leads =>
      refuses (step :: before) (List.cons_prefix_cons.mpr ⟨rfl, leads⟩)
    rcases moves.committed (Serialized.leads inv).lt with same | ⟨name, u, n, c, here, may, kept⟩
    · rw [same]
      exact linked
    · rw [kept]
      by_contra dangling
      have keeps := holds.connections n c here.conn here.on
      obtain ⟨e, refused⟩ := refuses [] List.nil_prefix n c here.conn here.on keeps.enforced
        here.transaction dangling
      have ran := Store.runCommand_commit_ok here.conn here.transaction may
      rw [History.run, List.foldl_nil, ran] at refused
      cases refused

/-- The engine does refuse to commit dangling links, as long as no unit has seen a link to the
least key as a real. -/
theorem refusesDangling_of_isTame {w : World} (idle : w.IsIdle path file)
    (are : (w.store.committed file).AreOf [entriesLayout, linksLayout, itemsLayout])
    (linked : (w.store.committed file).AreLinked) (enforced : ∀ step ∈ steps, step.EnforcesKeys)
    (tame : ∀ before, before <+: steps → ((History.start w).run path before).session.IsTame) :
    ((History.start w).run path steps).session.world.store.RefusesDangling file := by
  have holds : w.store.Enforces Work.IsBalanced file := by
    refine ⟨Tables.isBalanced_of_areLinked are linked, ?_, fun _ _ => Work.IsBalanced.closed⟩
    intro n c conn
    rw [Store.connection?, idle.alone] at conn
    cases conn
  refine Store.Enforces.refusesDangling ?_
  refine (isSerialized_start idle).enforces holds enforced fun before leads ts count w' sees => ?_
  obtain ⟨p, mem, seen⟩ := sees
  exact fun balanced changes => balanced.changes (tame before leads p mem ts seen) changes

def linkRecord : RecordType (List Value) :=
  .plain ⟨"LinkRecord", some "LINKS", [⟨"ID", .integer⟩, ⟨"ENTRY_ID", .integer⟩]⟩

/-- A link to the least key as a real comes before its entry, and leaves when another has come
that has none. -/
def astray : List Step :=
  [.begin "a" .default,
    .call "a" (.create linkRecord [.integer 1, .real ⟨0xc3e0000000000000⟩]),
    .call "a" (.create entryRecord ⟨Int64.minValue, none, .newYear2024⟩), .commit "a",
    .begin "b" .default, .call "b" (.create linkRecord [.integer 2, .integer 77]),
    .call "b" (.delete linkRecord (.compare ⟨"ID", .eq, .integer 1⟩))]

/-- Looked up, such a link is open; compared with the key, it is not. So it takes the place of
the other link in the balance. -/
theorem not_refusesDangling_astray :
    ¬((History.start quietWorld).run "/a.db" astray).session.world.store.RefusesDangling 0 := by
  obtain ⟨stands, commits⟩ :
      (((History.start quietWorld).run "/a.db" astray).session.world.store.connection? 1).map
          (fun c => (c.file, c.enforced, c.inTransaction, c.work))
            = some (0, true, true,
              some [⟨entriesLayout, [⟨Int64.minValue, [.null, .text "2024-01-01"]⟩]⟩,
                ⟨linksLayout, [⟨2, [.integer 77]⟩]⟩, ⟨itemsLayout, []⟩]) ∧
        (((History.start quietWorld).run "/a.db" astray).session.world.store.runCommand 1
          .commit).1.toOption = some () := by
    decide +kernel
  generalize ((History.start quietWorld).run "/a.db" astray).session.world.store = s
    at stands commits
  intro refuses
  obtain ⟨c, conn, stands⟩ := Option.map_eq_some_iff.mp stands
  obtain ⟨on, enforced, transaction, work⟩ : c.file = 0 ∧ c.enforced = true ∧
      c.inTransaction = true ∧ c.work = _ := by simpa only [Prod.mk.injEq] using stands
  obtain ⟨e, refused⟩ := refuses 1 c conn on enforced transaction fun linked => by
    rw [Store.visible, work, Option.getD_some] at linked
    exact absurd linked (by decide)
  rw [refused] at commits
  cases commits

/-- If the engine refuses to commit dangling links, none is ever committed by units that all
enforce foreign keys, whatever links they break and mend in between: a unit that still has one
when it commits is rolled back and leaves the files as they are. -/
theorem links_hold {w : World} (idle : w.IsIdle path file)
    (linked : (w.store.committed file).AreLinked) (steps : List Step)
    (enforced : ∀ step ∈ steps, step.EnforcesKeys)
    (refuses : ∀ before, before <+: steps →
      ((History.start w).run path before).session.world.store.RefusesDangling file) :
    (∀ enforced, (((History.start w).run path steps).session.world.store.visible
        (.fresh file enforced)).AreLinked) ∧
      ∀ name u ts, ((History.start w).run path steps).session.unit? name = some u →
        u.tables? ((History.start w).run path steps).session.world = some ts → ¬ts.AreLinked →
          (∃ e, (u.commit ((History.start w).run path steps).session.world).answer = .error e) ∧
            (u.commit ((History.start w).run path steps).session.world).unit.state = .rolledBack ∧
            (u.commit ((History.start w).run path steps).session.world).world.store.files
              = ((History.start w).run path steps).session.world.store.files := by
  have none : w.store.Enforces (fun _ => True) file := by
    refine ⟨trivial, fun n c conn => ?_, fun _ _ _ _ => trivial⟩
    rw [Store.connection?, idle.alone] at conn
    cases conn
  have inv := isSerialized_start idle
  have holds := inv.enforces none enforced fun _ _ _ _ _ _ _ _ => trivial
  refine ⟨fun _ => inv.areLinked none linked enforced refuses, ?_⟩
  have refuses := refuses steps (List.prefix_refl steps)
  have inv := inv.run steps
  generalize (History.start w).run path steps = h at inv holds refuses
  intro name u ts unit sees dangling
  have ongoing : u.state = .ongoing := by
    by_contra ended
    rw [UnitOfWork.tables?, UnitOfWork.closed_of_not_ongoing ended] at sees
    cases sees
  obtain ⟨n, c, here⟩ := Session.hasOpen_of_ongoing inv unit ongoing
  cases Option.some.inj (here.tables?_eq.symm.trans sees)
  have keeps := holds.connections n c here.conn here.on
  obtain ⟨e, refused⟩ := refuses n c here.conn here.on keeps.enforced here.transaction dangling
  rcases UnitOfWork.commit_cases here.opened here.conn here.transaction with
    ⟨⟨_, may⟩, _⟩ | ⟨e, failure, answer, unit', store⟩
  · rw [Store.runCommand_commit_ok here.conn here.transaction may] at refused
    cases refused
  · rw [unit', store]
    exact ⟨⟨e, answer⟩, rfl, rfl⟩

/-- A link comes before its entry, and after a commit the entry is deleted. -/
def mended : List Step :=
  [.begin "a" .default, .call "a" (.create linkRecord [.integer 1, .integer 7]),
    .call "a" (.create entryRecord ⟨7, none, .newYear2024⟩), .commit "a",
    .begin "b" .default,
    .call "b" (.delete entryRecord (.compare ⟨"ID", .eq, .integer 7⟩))]

/-- What the second unit sees in the end. -/
def broken : Tables :=
  [⟨entriesLayout, []⟩, ⟨linksLayout, [⟨1, [.integer 7]⟩]⟩, ⟨itemsLayout, []⟩]

theorem links_hold_mended :
    quietWorld.IsIdle "/a.db" 0 ∧ (quietWorld.store.committed 0).AreLinked ∧
      (∀ step ∈ mended, step.EnforcesKeys) ∧
      (∀ before, before <+: mended →
        ((History.start quietWorld).run "/a.db" before).session.world.store.RefusesDangling 0) ∧
      (((History.start quietWorld).run "/a.db" mended).session.world.store.visible
        (.fresh 0 true)).AreLinked ∧
      ∃ u, ((History.start quietWorld).run "/a.db" mended).session.unit? "b" = some u ∧
        u.tables? ((History.start quietWorld).run "/a.db" mended).session.world = some broken ∧
        (u.commit ((History.start quietWorld).run "/a.db" mended).session.world).unit.state
          = .rolledBack := by
  have linked : (quietWorld.store.committed 0).AreLinked := by decide
  have are : (quietWorld.store.committed 0).AreOf [entriesLayout, linksLayout, itemsLayout] :=
    ⟨rfl, by simp [quietWorld, Store.committed, World.ofStore, emptyTables, Table.IsKeyed]⟩
  have enforced : ∀ step ∈ mended, step.EnforcesKeys := by
    simp [mended, Step.EnforcesKeys, StoreOptions.default]
  obtain ⟨tame, sees⟩ : (∀ before ∈ mended.inits,
      ((History.start quietWorld).run "/a.db" before).session.IsTame) ∧
        (((History.start quietWorld).run "/a.db" mended).session.unit? "b").bind
          (·.tables? ((History.start quietWorld).run "/a.db" mended).session.world)
            = some broken := by
    decide +kernel
  have refuses : ∀ before, before <+: mended →
      ((History.start quietWorld).run "/a.db" before).session.world.store.RefusesDangling 0 := by
    intro before leads
    refine refusesDangling_of_isTame isIdle_quietWorld are linked
      (fun step mem => enforced step (leads.subset mem)) fun first goes => ?_
    exact tame first ((List.mem_inits first mended).mpr (goes.trans leads))
  obtain ⟨holds, ends⟩ := links_hold isIdle_quietWorld linked mended enforced refuses
  refine ⟨isIdle_quietWorld, linked, enforced, refuses, holds true, ?_⟩
  generalize (History.start quietWorld).run "/a.db" mended = h at ends sees ⊢
  obtain ⟨u, unit, sees⟩ := Option.bind_eq_some_iff.mp sees
  obtain ⟨_, state, _⟩ := ends "b" u broken unit sees (by decide)
  exact ⟨u, unit, sees, state⟩

end History

end RecordStore
