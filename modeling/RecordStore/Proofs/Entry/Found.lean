import RecordStore.Proofs.Entry.Created

/-!
Entries found by a predicate. What a unit answers after it has created entries is what the
evaluator finds among them.
-/
namespace RecordStore

-- Powers of numbers are those of the core library, whatever algebra is imported beside it.
attribute [local instance (high)] instPowNat instNatPowNat

open Sql

/-- Store and evaluator decide the comparison alike for an identifier: rounding it to a real
changes nothing, and it is not the least one, asked for by the real that equals it. -/
def Comparison.DecidedAlike (i : Int64) (k : Comparison) : Prop :=
  k.AllowsRounding i ∧
    ∀ x, k.value = .real x → k.op = .eq → i = Int64.minValue →
      Real64.compareInt? i.toInt x ≠ some .eq

theorem Comparison.decidedAlike_of_small {i : Int64} (small : i.toInt.natAbs ≤ 2 ^ 53)
    (k : Comparison) : k.DecidedAlike i := by
  refine ⟨k.allowsRounding_of_small small, fun x _ _ least => ?_⟩
  subst least
  exact absurd small (by decide)

namespace UnitOfWork

/-- The unit is open, nobody else has a lock on its file, and it sees the table, inside a
transaction or not. -/
structure SeesTable (u : UnitOfWork) (w : World) (id : Nat) (c : Connection) (name : String)
    (t : Table) : Prop where
  opened : u.openConnection? = some id
  connected : w.store.connection? id = some c
  alone : ∀ l, w.store.othersHold id c.file l = false
  sees : (w.store.visible c).table? name = some t

variable {u : UnitOfWork} {w : World} {n : Nat} {c : Connection} {name : String} {t : Table}

theorem SeesTable.table?_eq (seen : u.SeesTable w n c name t) : u.table? w name = some t := by
  simp [table?, seen.opened, seen.connected, seen.sees]

theorem SeesTable.tableFor_eq (seen : u.SeesTable w n c name t) {height : Nat}
    (low : height ≤ maxHeight) : w.store.tableFor n height name = .ok t := by
  have reads : w.store.mayRead n c = true := by simp [Store.mayRead, seen.alone]
  simp [Store.tableFor, seen.connected, Nat.not_lt.mpr low, reads, seen.sees]

theorem SeesTable.holdsTable (seen : u.SeesTable w n c name t)
    (transaction : c.inTransaction = true) (reliable : c.medium = .reliable) :
    u.HoldsTable w n c name t :=
  { seen with transaction, reliable }

theorem HoldsTable.seesTable (holds : u.HoldsTable w n c name t) : u.SeesTable w n c name t :=
  { holds with }

end UnitOfWork

namespace Entry

def answered (e : Entry) : ResultRow := ⟨entriesLayout.columnNames, e.row.values⟩

def isFoundBy (p : Predicate) (e : Entry) : Bool :=
  p.truthOn descriptor.columns entriesLayout e.row == some true

theorem mapM_answered (es : List Entry) : (es.map answered).mapM entryRecord.ofRow = .ok es := by
  rw [mapM_eq_ok_iff, List.map_map]
  exact List.map_congr_left fun e _ => e.ofRow_row

end Entry

namespace Repository

variable {u : UnitOfWork} {w : World} {n : Nat} {t : Table} {p : Predicate} {f : Filter}

/-- A predicate answers the rows that it is true of, in some order. -/
theorem getAll_selected (opened : u.openConnection? = some n)
    (reads : w.store.tableFor n p.leftNested.height "ENTRIES" = .ok t)
    (layout : t.layout = entriesLayout)
    (selectable : Selectable u.filterMode Entry.descriptor p u w)
    (compiled : Filter.compile (some p) Entry.descriptor u.filterMode = .ok f) :
    ∃ rows : List ResultRow,
      rows.Perm ((t.rows.filter fun r =>
        p.truthOn Entry.descriptor.columns entriesLayout r == some true).map
          fun r => ⟨entriesLayout.columnNames, r.values⟩) ∧
      (getAll entryRecord (some p) u w).answer
        = (rows.mapM Entry.ofRow).mapError fun e => .execution ⟨.getAll, "EntryRecord", e⟩ := by
  have accepted : entryRecord.declaration.describe = .ok Entry.descriptor :=
    Entry.describe_declaration
  have table : w.store.tableFor n p.leftNested.height Entry.descriptor.table = .ok t := reads
  obtain ⟨rowsOf, perm, answer⟩ := getAll_rows rfl accepted selectable opened compiled
  refine ⟨rowsOf t, ?_, ?_⟩
  · rw [← layout]
    exact perm t table
  · rw [answer, table]
    rfl

/-- A comparison with an integer or a date asks for nothing that a mode or a key look-up could
miss. -/
theorem selectable_comparison {k : Comparison} (mode : FilterMode)
    (number : ∀ x, k.value ≠ .real x) (text : ∀ s, k.value ≠ .text s)
    (seen : u.table? w "ENTRIES" = some t) (layout : t.layout = entriesLayout)
    (distinct : (t.rows.map Row.key).Nodup) :
    Selectable mode Entry.descriptor (.compare k) u w := by
  have only {t' : Table} (h : u.table? w Entry.descriptor.table = some t') : t' = t :=
    Option.some.inj (h.symm.trans seen)
  have single {j : Comparison} (mem : j ∈ (Predicate.compare k).comparisons) : j = k :=
    List.mem_singleton.mp mem
  exact
    { table_free := Entry.table_free
      columns_free := Entry.columns_free
      placed := by
        intro t' h
        rw [only h, layout]
        exact Entry.hasColumns
      distinct := by
        intro t' h
        rw [only h]
        exact distinct
      spares := by
        intro t' _ j mem column x _ _ _ real
        exact absurd (single mem ▸ real) (number x)
      readable := by
        intro _ j mem s shown
        exact absurd (single mem ▸ shown) (text s)
      reads := by
        intro _ j mem x real
        exact absurd (single mem ▸ real) (number x)
      few := by
        intro f compiled
        obtain ⟨column, _, _, shape⟩ := Filter.ofComparison_ok compiled
        rcases shape with ⟨_, _, rfl⟩ | ⟨_, _, rfl⟩ | ⟨_, _, rfl⟩
        · exact Nat.zero_le _
        · exact Nat.zero_le _
        · cases mode with
          | bound => exact (show 1 ≤ maxParameters by decide)
          | inline => exact Nat.zero_le _ }

theorem getAll_entries {u : UnitOfWork} {w : World} {n : Nat} {c : Connection} {t : Table}
    {es : List Entry} {p : Predicate} {f : Filter} (bound : u.filterMode = .bound)
    (holds : u.HoldsTable w n c "ENTRIES" t) (layout : t.layout = entriesLayout)
    (rows : t.rows.Perm (es.map Entry.row)) (distinct : (es.map Entry.id).Nodup)
    (compiled : Filter.compile (some p) Entry.descriptor .bound = .ok f)
    (low : p.leftNested.height ≤ maxHeight) (few : f.parameters.length ≤ maxParameters)
    (alike : ∀ e ∈ es, ∀ k ∈ p.comparisons, k.DecidedAlike e.id) :
    ∃ found, (getAll entryRecord (some p) u w).answer = .ok found ∧
      found.Perm (es.filter (Entry.isFoundBy p)) := by
  have seen {t' : Table} (h : u.table? w Entry.descriptor.table = some t') : t' = t :=
    Option.some.inj (h.symm.trans holds.seesTable.table?_eq)
  rw [← bound] at compiled
  have selectable : Selectable u.filterMode Entry.descriptor p u w :=
    { table_free := Entry.table_free
      columns_free := Entry.columns_free
      placed := by
        intro t' h
        rw [seen h, layout]
        exact Entry.hasColumns
      distinct := by
        intro t' h
        have keys := rows.map Row.key
        rw [List.map_map] at keys
        rw [seen h]
        exact keys.nodup_iff.mpr distinct
      spares := by
        intro t' h k hk column x _ _ eq real r hr least
        rw [seen h] at hr
        obtain ⟨e, he, rfl⟩ := List.mem_map.mp (rows.mem_iff.mp hr)
        exact (alike e he k hk).2 x real eq least
      readable := by
        rw [bound]
        nofun
      reads := by
        rw [bound]
        nofun
      few := by
        intro g hg
        cases Except.ok.inj (compiled.symm.trans hg)
        exact few }
  obtain ⟨answered, perm, answer⟩ := getAll_selected holds.opened
    (holds.seesTable.tableFor_eq low) layout selectable compiled
  have ordered : answered.Perm ((es.filter (Entry.isFoundBy p)).map Entry.answered) := by
    have chosen := rows.filter fun row =>
      p.truthOn Entry.descriptor.columns entriesLayout row == some true
    rw [List.filter_map] at chosen
    have answers := chosen.map fun row => (⟨entriesLayout.columnNames, row.values⟩ : ResultRow)
    rw [List.map_map] at answers
    exact perm.trans answers
  obtain ⟨found, read, same⟩ := mapM_ok_of_perm ordered.symm
    (Entry.mapM_answered (es.filter (Entry.isFoundBy p)))
  have read : answered.mapM Entry.ofRow = .ok found := read
  exact ⟨found, by rw [answer, read]; rfl, same.symm⟩

/-- A fresh unit that creates entries under identifiers of their own finds exactly those that
the predicate holds of, unless the predicate is beyond the limits of the store. -/
theorem getAll_created {w w' : World} {o : StoreOptions} {u : UnitOfWork} {es : List Entry}
    {p : Predicate} {f : Filter} (numbered : w.store.IsNumbered)
    (begun : w.beginUnit (.memory emptyTables) o none = (.ok u, w'))
    (bound : o.filterMode = .bound) (distinct : (es.map Entry.id).Nodup)
    (compiled : Filter.compile (some p) Entry.descriptor .bound = .ok f)
    (alike : ∀ e ∈ es, ∀ k ∈ p.comparisons, k.DecidedAlike e.id) :
    ∃ w'', createAll entryRecord u w' es = (es.map fun _ => .ok 1, u, w'') ∧
      (p.leftNested.height ≤ maxHeight → f.parameters.length ≤ maxParameters →
        ∃ found, (getAll entryRecord (some p) u w'').answer = .ok found ∧ found.Nodup ∧
          ∀ e, e ∈ found ↔ e ∈ es ∧ p.holds Entry.descriptor.columns e.values = .ok true) ∧
      (maxHeight < p.leftNested.height ∨ maxParameters < f.parameters.length →
        ∃ e, (getAll entryRecord (some p) u w'').answer
          = .error (.execution ⟨.getAll, Entry.descriptor.record, e⟩)) := by
  have empty : emptyTables.table? "ENTRIES" = some ⟨entriesLayout, []⟩ := by decide
  obtain ⟨mode, n, c, holds⟩ := World.beginUnit_memory numbered begun empty
  obtain ⟨w'', c', t, created, holds', layout, rows⟩ :=
    createAll_entries holds rfl distinct fun _ _ => rfl
  rw [List.append_nil] at rows
  refine ⟨w'', created, fun low few => ?_, fun beyond => ?_⟩
  · obtain ⟨found, answer, perm⟩ :=
      getAll_entries (mode.trans bound) holds' layout rows distinct compiled low few alike
    refine ⟨found, answer, perm.nodup_iff.mpr ((List.Nodup.of_map _ distinct).filter _),
      fun e => ?_⟩
    rw [perm.mem_iff, List.mem_filter]
    refine and_congr_right fun mem => ?_
    obtain ⟨b, value, found_iff⟩ :=
      e.truthOn_iff_holds compiled fun k hk => (alike e mem k hk).1
    rw [value, Entry.isFoundBy, beq_iff_eq, found_iff]
    exact ⟨congrArg Except.ok, Except.ok.inj⟩
  · have accepted : entryRecord.declaration.describe = .ok Entry.descriptor :=
      Entry.describe_declaration
    exact getAll_beyond_limits (mode.trans bound) accepted Entry.table_free Entry.columns_free
      nofun holds'.opened compiled beyond

theorem getAll_created_three :
    ∃ u w w' found, World.beginUnit (.ofStore (.empty [])) (.memory emptyTables) .default none
        = (.ok u, w) ∧
      createAll entryRecord u w
        [⟨2, none, ⟨2024, 1, 1, by decide, by decide⟩⟩,
          ⟨-1, some "a", ⟨2024, 1, 2, by decide, by decide⟩⟩,
          ⟨1, some "b", ⟨-44, 3, 15, by decide, by decide⟩⟩] = ([.ok 1, .ok 1, .ok 1], u, w') ∧
      (getAll entryRecord (some (.and (.compareWith "id" .gt (.real ⟨0x3fe0000000000000⟩))
        (.isNotNull "Description"))) u w').answer = .ok found ∧
      ∀ e, e ∈ found ↔ e = ⟨1, some "b", ⟨-44, 3, 15, by decide, by decide⟩⟩ := by
  have numbered : (World.ofStore (.empty [])).store.IsNumbered := nofun
  have begun : World.beginUnit (.ofStore (.empty [])) (.memory emptyTables) .default none
      = (.ok ⟨some 0, .ongoing, none, .bound⟩,
          (World.beginUnit (.ofStore (.empty [])) (.memory emptyTables) .default none).2) := rfl
  have compiled : Filter.compile
      (some (.and (.compareWith "id" .gt (.real ⟨0x3fe0000000000000⟩))
        (.isNotNull "Description"))) Entry.descriptor .bound
      = .ok ⟨"ID > ? AND DESCRIPTION IS NOT NULL", [.real ⟨0x3fe0000000000000⟩]⟩ :=
    eq_ok_of_toOption (by decide +kernel)
  have distinct : (List.map Entry.id
      [⟨2, none, ⟨2024, 1, 1, by decide, by decide⟩⟩,
        ⟨-1, some "a", ⟨2024, 1, 2, by decide, by decide⟩⟩,
        ⟨1, some "b", ⟨-44, 3, 15, by decide, by decide⟩⟩]).Nodup := by decide
  obtain ⟨w', created, within, _⟩ := getAll_created numbered begun rfl distinct compiled
    fun e he k _ => k.decidedAlike_of_small (by
      have small : ∀ i ∈ [(2 : Int64), -1, 1], i.toInt.natAbs ≤ 2 ^ 53 :=
        List.forall_mem_cons.mpr ⟨by decide, List.forall_mem_cons.mpr ⟨by decide,
          List.forall_mem_singleton.mpr (by decide)⟩⟩
      exact small e.id (List.mem_map_of_mem he))
  obtain ⟨found, answer, _, members⟩ := within (by decide) (by decide)
  refine ⟨_, _, w', found, begun, created, answer, fun e => (members e).trans ?_⟩
  constructor
  · rintro ⟨mem, holds⟩
    rcases List.mem_cons.mp mem with rfl | mem
    · exact absurd holds (by decide +kernel)
    rcases List.mem_cons.mp mem with rfl | mem
    · exact absurd holds (by decide +kernel)
    exact List.mem_singleton.mp mem
  · rintro rfl
    exact ⟨by simp, eq_ok_of_toOption (by decide +kernel)⟩

def foundFresh (es : List Entry) (p : Predicate) : Option (List Entry) :=
  match World.beginUnit (.ofStore (.empty [])) (.memory emptyTables) .default none with
  | (.error _, _) => none
  | (.ok u, w) =>
    let (_, u, w) := createAll entryRecord u w es
    (getAll entryRecord (some p) u w).answer.toOption

theorem foundFresh_of_high {p : Predicate}
    (compiles : (Filter.compile (some p) Entry.descriptor .bound).toOption.isSome = true)
    (high : maxHeight < p.leftNested.height) : foundFresh [] p = none := by
  cases compiled : Filter.compile (some p) Entry.descriptor .bound with
  | error e =>
    rw [compiled] at compiles
    cases compiles
  | ok f =>
    have accepted : entryRecord.declaration.describe = .ok Entry.descriptor :=
      Entry.describe_declaration
    have begun : World.beginUnit (.ofStore (.empty [])) (.memory emptyTables) .default none
        = (.ok ⟨some 0, .ongoing, none, .bound⟩,
            (World.beginUnit (.ofStore (.empty [])) (.memory emptyTables) .default none).2) := rfl
    obtain ⟨e, answer⟩ := getAll_beyond_limits
      (u := ⟨some 0, .ongoing, none, .bound⟩)
      (w := (World.beginUnit (.ofStore (.empty [])) (.memory emptyTables) .default none).2)
      rfl accepted Entry.table_free Entry.columns_free nofun rfl compiled (.inl high)
    rw [foundFresh, begun]
    simp only [createAll, answer]
    rfl

/-- The store compares exactly and the evaluator rounds, so they differ at 2^53 + 1. The least
key is not found by its real, and a predicate can be too high. -/
theorem getAll_created_apart :
    (foundFresh [⟨9007199254740993, none, ⟨2024, 1, 1, by decide, by decide⟩⟩]
        (.compareWith "ID" .eq (.real ⟨0x4340000000000000⟩)) = some [] ∧
      (Predicate.compareWith "ID" .eq (.real ⟨0x4340000000000000⟩)).holds
        Entry.descriptor.columns
          (Entry.values ⟨9007199254740993, none, ⟨2024, 1, 1, by decide, by decide⟩⟩) = .ok true) ∧
    (foundFresh [⟨Int64.minValue, none, ⟨2024, 1, 1, by decide, by decide⟩⟩]
        (.compareWith "ID" .eq (.real ⟨0xc3e0000000000000⟩)) = some [] ∧
      (Predicate.compareWith "ID" .eq (.real ⟨0xc3e0000000000000⟩)).holds
        Entry.descriptor.columns
          (Entry.values ⟨Int64.minValue, none, ⟨2024, 1, 1, by decide, by decide⟩⟩) = .ok true) ∧
    foundFresh [] (Predicate.joinLeft .and (.compareWith "ID" .eq (.integer 1))
        (List.replicate 999 (.compareWith "ID" .eq (.integer 1)))) = none := by
  refine ⟨⟨by decide +kernel, eq_ok_of_toOption (by decide +kernel)⟩,
    ⟨by decide +kernel, eq_ok_of_toOption (by decide +kernel)⟩,
    foundFresh_of_high (by decide +kernel) (by decide +kernel)⟩

end Repository

end RecordStore
