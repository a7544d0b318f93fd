import Mathlib.Data.List.Nodup
import RecordStore.Proofs.Outcome
import RecordStore.Store.Change

/-!
Tables under change. No change of rows touches a layout, gives two rows of a table one key, or
makes a row that has not one value for each column.
-/
namespace RecordStore

open Sql

namespace Table

def IsKeyed (t : Table) : Prop := (t.rows.map Row.key).Nodup

/-- Each row has a value in each column. -/
def IsWhole (t : Table) : Prop := ∀ r ∈ t.rows, r.cells.length = t.layout.cells.length

variable {t : Table}

theorem insertSorted_perm (r : Row) (rows : List Row) :
    (insertSorted r rows).Perm (r :: rows) := by
  induction rows with
  | nil => exact .refl _
  | cons s rest ih =>
    unfold insertSorted
    split
    · exact .refl _
    · exact (ih.cons s).trans (.swap r s rest)

theorem hasKey_iff {key : Int64} : t.hasKey key = true ↔ ∃ r ∈ t.rows, r.key = key := by
  simp [hasKey]

theorem IsKeyed.erase (keyed : t.IsKeyed) (key : Int64) : (t.erase key).IsKeyed :=
  List.Nodup.sublist (List.filter_sublist.map Row.key) keyed

theorem IsKeyed.insert (keyed : t.IsKeyed) {r : Row} (free : t.hasKey r.key = false) :
    (t.insert r).IsKeyed := by
  have perm := (insertSorted_perm r t.rows).map Row.key
  refine perm.nodup_iff.mpr (List.nodup_cons.mpr ⟨fun mem => ?_, keyed⟩)
  obtain ⟨s, hs, same⟩ := List.mem_map.mp mem
  rw [hasKey_iff.mpr ⟨s, hs, same⟩] at free
  cases free

theorem mem_insert {r s : Row} : s ∈ (t.insert r).rows ↔ s = r ∨ s ∈ t.rows := by
  rw [insert, (insertSorted_perm r t.rows).mem_iff, List.mem_cons]

theorem mem_of_mem_erase {s : Row} {key : Int64} (mem : s ∈ (t.erase key).rows) : s ∈ t.rows :=
  (List.mem_filter.mp mem).1

theorem IsWhole.erase (whole : t.IsWhole) (key : Int64) : (t.erase key).IsWhole :=
  fun r mem => whole r (mem_of_mem_erase mem)

theorem IsWhole.insert (whole : t.IsWhole) {r : Row}
    (full : r.cells.length = t.layout.cells.length) : (t.insert r).IsWhole := by
  intro s mem
  rcases mem_insert.mp mem with rfl | old
  · exact full
  · exact whole s old

theorem filter_erase (t : Table) (r : Row) (rest : List Row) :
    (t.erase r.key).rows.filter (fun q => q.key ∉ rest.map Row.key)
      = t.rows.filter fun q => q.key ∉ (r :: rest).map Row.key := by
  rw [erase, List.filter_filter]
  refine List.filter_congr fun q _ => ?_
  rw [Bool.eq_iff_iff]
  simp only [Bool.and_eq_true, decide_eq_true_eq, bne_iff_ne, List.map_cons, List.mem_cons, not_or]
  exact and_comm

end Table

theorem assignedValue?_eq (t : TableLayout) (assignments : List (ColumnName × Value))
    (place : ColumnPlace) :
    assignedValue? t assignments place
      = ((assignments.map fun (c, v) => (c.name, v)).reverse.find?
          fun a => t.place? a.1 = some place).map Prod.snd := by
  rw [assignedValue?, ← List.map_reverse, List.find?_map, Option.map_map]
  rfl

theorem length_assignedCells (t : TableLayout) (assignments : List (ColumnName × Value))
    (default : Nat → Value) : (assignedCells t assignments default).length = t.cells.length :=
  List.length_mapIdx

namespace Tables

/-- The tables have the given layouts, and each of their rows has a key of its own. -/
structure AreOf (layouts : List TableLayout) (ts : Tables) : Prop where
  layouts : ts.map Table.layout = layouts
  keyed : ∀ t ∈ ts, t.IsKeyed

variable {layouts : List TableLayout} {ts : Tables} {name : String} {t t' : Table}

theorem mem_of_table? (found : ts.table? name = some t) : t ∈ ts :=
  List.mem_of_find?_eq_some found

/-- A table is found under each spelling of its name. -/
theorem table?_congr {other : String} (same : Schema.sameName name other = true) (ts : Tables) :
    ts.table? name = ts.table? other := by
  have folded : ∀ u : Table, Schema.sameName u.layout.name name
      = Schema.sameName u.layout.name other := by
    intro u
    simp only [Schema.sameName, beq_iff_eq] at same ⊢
    rw [same]
  simp only [table?, folded]

theorem table?_self (found : ts.table? name = some t) : ts.table? t.layout.name = some t := by
  have same : Schema.sameName t.layout.name name = true := by simpa using List.find?_some found
  rw [table?_congr same, found]

theorem AreOf.mem_layouts (are : ts.AreOf layouts) (mem : t ∈ ts) : t.layout ∈ layouts := by
  rw [← are.layouts]
  exact List.mem_map_of_mem mem

theorem AreOf.exists_table {layout : TableLayout} (are : ts.AreOf layouts)
    (found : layouts.find? (fun l => Schema.sameName l.name name) = some layout) :
    ∃ t, ts.table? name = some t ∧ t.layout = layout := by
  rw [← are.layouts, List.find?_map] at found
  exact Option.map_eq_some_iff.mp found

theorem AreOf.put (are : ts.AreOf layouts) (named : (layouts.map TableLayout.name).Nodup)
    (mem : t.layout ∈ layouts) (keyed : t.IsKeyed) : (ts.put t).AreOf layouts := by
  constructor
  · refine Eq.trans ?_ are.layouts
    rw [Tables.put, List.map_map]
    refine List.map_congr_left fun u hu => ?_
    dsimp only [Function.comp]
    split
    · rename_i same
      exact (List.inj_on_of_nodup_map named (are.mem_layouts hu) mem same).symm
    · rfl
  · intro u hu
    obtain ⟨v, hv, rfl⟩ := List.mem_map.mp hu
    split
    · exact keyed
    · exact are.keyed v hv

/-- No change of a table's rows takes the property away that leaves its layout, gives no two of
them one key and leaves no value out. -/
def Lasts (P : Tables → Prop) : Prop :=
  ∀ (ts : Tables) (t t' : Table), P ts → t ∈ ts → t'.layout = t.layout →
    (t.IsKeyed → t'.IsKeyed) → (t.IsWhole → t'.IsWhole) → P (ts.put t')

theorem lasts_areOf (named : (layouts.map TableLayout.name).Nodup) : Lasts (AreOf layouts) :=
  fun _ t _ are mem same keyed _ =>
    are.put named (same ▸ are.mem_layouts mem) (keyed (are.keyed t mem))

theorem AreOf.put_self (are : ts.AreOf layouts) (named : (layouts.map TableLayout.name).Nodup)
    (mem : t ∈ ts) : ts.put t = ts := by
  rw [← are.layouts, List.map_map] at named
  rw [Tables.put]
  conv_rhs => rw [← List.map_id ts]
  refine List.map_congr_left fun u hu => ?_
  rw [id]
  split
  · rename_i same
    exact (List.inj_on_of_nodup_map named hu mem same).symm
  · rfl

theorem forall_mem_put {P : Table → Prop} (all : ∀ u ∈ ts, P u) (new : P t) :
    ∀ u ∈ ts.put t, P u := by
  intro u mem
  obtain ⟨v, hv, rfl⟩ := List.mem_map.mp mem
  split
  · exact new
  · exact all v hv

theorem lasts_keyed : Lasts fun ts => ∀ t ∈ ts, t.IsKeyed :=
  fun _ t _ all mem _ keyed _ => forall_mem_put all (keyed (all t mem))

def AreWhole (ts : Tables) : Prop := ∀ t ∈ ts, t.IsWhole

theorem areWhole_nil : AreWhole [] := List.forall_mem_nil _

theorem lasts_areWhole : Lasts AreWhole :=
  fun _ t _ all mem _ _ whole => forall_mem_put all (whole (all t mem))

theorem put_put (ts : Tables) (same : t'.layout = t.layout) :
    (ts.put t).put t' = ts.put t' := by
  rw [Tables.put, Tables.put, Tables.put, List.map_map]
  refine List.map_congr_left fun u _ => ?_
  dsimp only [Function.comp]
  by_cases here : u.layout.name = t.layout.name <;> simp [here, same]

theorem table?_put (found : ts.table? name = some t) (same : t'.layout = t.layout) :
    (ts.put t').table? name = some t' := by
  induction ts with
  | nil => cases found
  | cons a ts ih =>
    rw [table?, List.find?_cons] at found
    rw [Tables.put, List.map_cons, table?, List.find?_cons]
    split at found
    · cases Option.some.inj found
      rename_i named
      simp [same, named]
    · rename_i other
      have apart : a.layout.name ≠ t'.layout.name := by
        intro equal
        have named := List.find?_some found
        rw [← same, ← equal] at named
        exact absurd named (by simp [other])
      simp only [if_neg apart, other]
      exact ih found

end Tables

namespace Work

variable {layouts : List TableLayout} {P : Tables → Prop} {w w' : Work} {t : Table}
  {r old new : Row} {enforced : Bool} {name : String}
  {assignments : List (ColumnName × Value)} {rows : List Row}

theorem hasKey_of_checkRow (checked : checkRow t r = .ok ()) : t.hasKey r.key = false := by
  cases free : t.hasKey r.key with
  | false => rfl
  | true =>
    unfold checkRow at checked
    cases missing : missingCell? t.layout r with
    | some cell =>
      rw [missing] at checked
      cases checked
    | none =>
      rw [missing, free] at checked
      cases checked

theorem insertRow_ok (inserted : insertRow enforced w t r = .ok w') :
    w'.tables = w.tables.put (t.insert r) ∧ t.hasKey r.key = false := by
  obtain ⟨_, checked, done⟩ := bind_eq_ok inserted
  cases Except.ok.inj done
  exact ⟨rfl, hasKey_of_checkRow checked⟩

theorem replaceRow_ok {assigned : ColumnPlace → Bool}
    (replaced : replaceRow enforced assigned w t old new = .ok w') :
    w'.tables = w.tables.put ((t.erase old.key).insert new) ∧
      (t.erase old.key).hasKey new.key = false := by
  obtain ⟨_, checked, done⟩ := bind_eq_ok replaced
  cases Except.ok.inj done
  exact ⟨Tables.put_put w.tables rfl, hasKey_of_checkRow checked⟩

/-- An insertion adds one row. -/
theorem runInsert_ok (ran : runInsert enforced w t assignments = .ok w') :
    ∃ r, w'.tables = w.tables.put (t.insert r) ∧ t.hasKey r.key = false ∧
      r.cells.length = t.layout.cells.length := by
  have full := length_assignedCells t.layout assignments fun _ => .null
  unfold runInsert at ran
  dsimp only at ran
  split at ran
  · obtain ⟨put, free⟩ := insertRow_ok ran
    exact ⟨_, put, free, full⟩
  · split at ran
    · obtain ⟨put, free⟩ := insertRow_ok ran
      exact ⟨_, put, free, full⟩
    · cases ran

theorem length_updatedRow {l : TableLayout} (updated : updatedRow l assignments old = .ok new) :
    new.cells.length = l.cells.length := by
  have full := length_assignedCells l assignments fun i => old.valueAt (.cell i)
  unfold updatedRow at updated
  dsimp only at updated
  split at updated
  · cases updated
    exact full
  · split at updated
    · cases updated
      exact full
    · cases updated

theorem lasts_runInsert (lasts : Tables.Lasts P) (holds : P w.tables) (mem : t ∈ w.tables)
    (ran : runInsert enforced w t assignments = .ok w') : P w'.tables := by
  obtain ⟨r, put, free, full⟩ := runInsert_ok ran
  rw [put]
  exact lasts w.tables t (t.insert r) holds mem rfl (fun keyed => keyed.insert free)
    fun whole => whole.insert full

theorem lasts_replaceRow {assigned : ColumnPlace → Bool} (lasts : Tables.Lasts P)
    (holds : P w.tables) (mem : t ∈ w.tables) (full : new.cells.length = t.layout.cells.length)
    (replaced : replaceRow enforced assigned w t old new = .ok w') : P w'.tables := by
  obtain ⟨put, free⟩ := replaceRow_ok replaced
  rw [put]
  exact lasts w.tables t _ holds mem rfl (fun keyed => (keyed.erase old.key).insert free)
    fun whole => (whole.erase old.key).insert full

theorem lasts_deleteRow (lasts : Tables.Lasts P) (holds : P w.tables) (mem : t ∈ w.tables) :
    P (deleteRow enforced w t r).tables :=
  lasts w.tables t (t.erase r.key) holds mem rfl (fun keyed => keyed.erase r.key)
    fun whole => whole.erase r.key

theorem lasts_runUpdate (lasts : Tables.Lasts P) (holds : P w.tables)
    (ran : runUpdate enforced name assignments w rows = .ok w') : P w'.tables := by
  induction rows generalizing w with
  | nil =>
    cases ran
    exact holds
  | cons r rest ih =>
    rw [runUpdate] at ran
    split at ran
    · cases ran
    · rename_i t found
      obtain ⟨new, updated, ran⟩ := bind_eq_ok ran
      obtain ⟨w₁, replaced, ran⟩ := bind_eq_ok ran
      exact ih (lasts_replaceRow lasts holds (Tables.mem_of_table? found)
        (length_updatedRow updated) replaced) ran

theorem lasts_runDelete (lasts : Tables.Lasts P) (holds : P w.tables) :
    P (runDelete enforced name w rows).tables := by
  induction rows generalizing w with
  | nil => exact holds
  | cons r rest ih =>
    rw [runDelete]
    split
    · exact holds
    · rename_i t found
      exact ih (lasts_deleteRow lasts holds (Tables.mem_of_table? found))

/-- Deletion leaves the rows of the other keys. -/
theorem runDelete_tables (are : w.tables.AreOf layouts)
    (named : (layouts.map TableLayout.name).Nodup) (found : w.tables.table? name = some t) :
    (runDelete enforced name w rows).tables
      = w.tables.put { t with rows := t.rows.filter fun r => r.key ∉ rows.map Row.key } := by
  have mem := Tables.mem_of_table? found
  induction rows generalizing w t with
  | nil =>
    have all : t.rows.filter (fun r => r.key ∉ ([] : List Row).map Row.key) = t.rows := by simp
    rw [all, are.put_self named mem]
    rfl
  | cons r rest ih =>
    have erased : (w.tables.put (t.erase r.key)).table? name = some (t.erase r.key) :=
      Tables.table?_put found rfl
    have later : (runDelete enforced name (deleteRow enforced w t r) rest).tables
        = (deleteRow enforced w t r).tables.put { t.erase r.key with
            rows := (t.erase r.key).rows.filter fun q => q.key ∉ rest.map Row.key } :=
      ih (lasts_deleteRow (Tables.lasts_areOf named) are mem) erased (Tables.mem_of_table? erased)
    rw [runDelete, found]
    dsimp only
    rw [later, t.filter_erase]
    exact Tables.put_put w.tables rfl

end Work

end RecordStore
