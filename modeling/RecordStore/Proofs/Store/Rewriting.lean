import RecordStore.Proofs.Schema
import RecordStore.Proofs.Sql.ChangeText
import RecordStore.Proofs.Store.Tables

/-!
Rows that are rewritten. A change gives each column that it names its value, and touches no other
column, no other row and no other table.
-/
namespace RecordStore

open Sql

/-! ## Columns of a table -/

namespace TableLayout

def places (t : TableLayout) : List ColumnPlace :=
  .key :: (List.range t.cells.length).map .cell

variable {t : TableLayout} {name other : String} {place : ColumnPlace} {columns : List Column}

theorem mem_places_cell {i : Nat} : .cell i ∈ t.places ↔ i < t.cells.length := by
  simp [places]

theorem sameName_nameAt (found : t.place? name = some place) :
    place ∈ t.places ∧ Schema.sameName (t.nameAt place) name = true := by
  unfold place? at found
  split at found
  · rename_i key
    cases Option.some.inj found
    exact ⟨List.mem_cons_self .., key⟩
  · obtain ⟨i, here, rfl⟩ := Option.map_eq_some_iff.mp found
    obtain ⟨inside, same, _⟩ := List.findIdx?_eq_some_iff_getElem.mp here
    refine ⟨mem_places_cell.mpr inside, ?_⟩
    simpa [nameAt, List.getElem?_eq_getElem inside] using same

/-- Columns that do not share a name do not share a place. -/
theorem eq_of_place? (apart : columns.Pairwise fun c e => Schema.sameName e.name c.name = false)
    {i j : Nat} {c e : Column} (first : columns[i]? = some c) (second : columns[j]? = some e)
    (here : t.place? c.name = some place) (there : t.place? e.name = some place) : i = j := by
  have one := Schema.sameName_iff.mp (sameName_nameAt here).2
  have two := Schema.sameName_iff.mp (sameName_nameAt there).2
  have same : Schema.foldCase c.name = Schema.foldCase e.name := one.symm.trans two
  obtain ⟨inside, rfl⟩ := List.getElem?_eq_some_iff.mp first
  obtain ⟨inside', rfl⟩ := List.getElem?_eq_some_iff.mp second
  rw [List.pairwise_iff_getElem] at apart
  rcases Nat.lt_trichotomy i j with before | here | behind
  · have differ := apart i j inside inside' before
    rw [Schema.sameName_iff.mpr same.symm] at differ
    cases differ
  · exact here
  · have differ := apart j i inside' inside behind
    rw [Schema.sameName_iff.mpr same] at differ
    cases differ

end TableLayout

/-! ## Assignments -/

/-- The assignments give the columns the values in their order, as the engine receives them. -/
def AssignsTo (columns : List Column) (values : List Value)
    (assignments : List (ColumnName × Value)) : Prop :=
  assignments.map (fun (c, v) => (c.name, v))
    = (columns.map Column.name).zip (values.map Value.received)

namespace AssignsTo

variable {columns : List Column} {values : List Value} {changes : List (ColumnName × Value)}
  {t : TableLayout} {place : ColumnPlace}

theorem assignedValue?_eq_some (assigns : AssignsTo columns values changes)
    (apart : columns.Pairwise fun c e => Schema.sameName e.name c.name = false) {i : Nat}
    {column : Column} {v : Value} (declared : columns[i]? = some column)
    (given : values[i]? = some v) (found : t.place? column.name = some place) :
    assignedValue? t changes place = some v.received := by
  rw [assignedValue?_eq, assigns]
  have mem : (column.name, v.received)
      ∈ (columns.map Column.name).zip (values.map Value.received) :=
    List.mem_of_getElem? (i := i) (by simp [List.getElem?_zip_eq_some, declared, given])
  have some_named : ((columns.map Column.name).zip (values.map Value.received)).reverse.find?
      (fun a => t.place? a.1 = some place) ≠ none := by
    intro none
    have other := List.find?_eq_none.mp none _ (List.mem_reverse.mpr mem)
    simp [found] at other
  obtain ⟨⟨name, w⟩, last⟩ := Option.ne_none_iff_exists'.mp some_named
  have named : t.place? name = some place := by simpa using List.find?_some last
  obtain ⟨j, here⟩ := List.getElem?_of_mem (List.mem_reverse.mp (List.mem_of_find?_eq_some last))
  obtain ⟨nameAt, valueAt⟩ := List.getElem?_zip_eq_some.mp here
  rw [List.getElem?_map] at nameAt valueAt
  obtain ⟨e, declared', rfl⟩ := Option.map_eq_some_iff.mp nameAt
  -- the last assignment to the place is the only one
  cases TableLayout.eq_of_place? apart declared declared' found named
  rw [given] at valueAt
  cases Option.some.inj valueAt
  rw [last]
  rfl

theorem assignedValue?_eq_none (assigns : AssignsTo columns values changes)
    (undeclared : ∀ column ∈ columns, t.place? column.name ≠ some place) :
    assignedValue? t changes place = none := by
  rw [assignedValue?_eq, assigns, Option.map_eq_none_iff, List.find?_eq_none]
  rintro ⟨name, v⟩ mem
  obtain ⟨column, declared, rfl⟩ := List.mem_map.mp (List.of_mem_zip (List.mem_reverse.mp mem)).1
  simpa using undeclared column declared

/-- The parameters of an UPDATE that come first are those of its columns. -/
theorem of_assigned {as : List (ColumnName × Operand)}
    (columns_eq : assigned as = parametersFrom 0 (columns.map Column.name))
    (arity : values.length = columns.length) (rest : List Value) :
    AssignsTo columns values
      (as.map fun (c, o) => (c, o.value ((values ++ rest).map Value.received))) := by
  have valued := congrArg (List.map fun (name, o) =>
    (name, Operand.value ((values ++ rest).map Value.received) o)) columns_eq
  rw [assigned, List.map_map] at valued
  rw [AssignsTo, List.map_map]
  refine valued.trans (List.ext_getElem (by simp [parametersFrom, arity]) fun i _ within => ?_)
  have inside : i < values.length := by
    simp only [List.length_zip, List.length_map] at within
    omega
  simp [parametersFrom, Operand.value, List.getElem?_append_left, inside]

end AssignsTo

/-! ## Rows -/

theorem Value.integral_of_toKey? {v : Value} {key : Int64} (named : v.toKey? = some key) :
    v.numeric.integral = .integer key := by
  unfold toKey? at named
  split at named
  · cases Option.some.inj named
    assumption
  · cases named

/-- The second row is the first with the values in their columns, each as its column keeps it,
and with whatever the first row has in the other columns. -/
structure TableLayout.Rewrites (t : TableLayout) (columns : List Column) (values : List Value)
    (r r' : Row) : Prop where
  declared : ∀ (i : Nat) (column : Column) (v : Value), columns[i]? = some column →
    values[i]? = some v → ∃ place, t.place? column.name = some place ∧
      r'.valueAt place = (t.affinityAt place).store v.received
  undeclared : ∀ place ∈ t.places, (∀ column ∈ columns, t.place? column.name ≠ some place) →
    r'.valueAt place = r.valueAt place

namespace Work

variable {t : TableLayout} {columns : List Column} {values : List Value}
  {changes : List (ColumnName × Value)} {place : ColumnPlace} {r r' : Row}

theorem valueAt_updatedRow (updated : updatedRow t changes r = .ok r')
    (mem : place ∈ t.places) :
    r'.valueAt place = match assignedValue? t changes place with
      | none => r.valueAt place
      | some v => (t.affinityAt place).store v := by
  have cells : r'.cells = assignedCells t changes fun i => r.valueAt (.cell i) := by
    unfold updatedRow at updated
    split at updated
    · cases updated
      rfl
    · split at updated
      · cases updated
        rfl
      · cases updated
  cases place with
  | key =>
    unfold updatedRow at updated
    cases given : assignedValue? t changes .key with
    | none =>
      rw [given] at updated
      cases Except.ok.inj updated
      rfl
    | some v =>
      rw [given] at updated
      dsimp only at updated
      split at updated
      · rename_i key named
        cases Except.ok.inj updated
        exact (Value.integral_of_toKey? named).symm
      · cases updated
  | cell i =>
    have inside := TableLayout.mem_places_cell.mp mem
    rw [Row.valueAt, cells, assignedCells, List.getElem?_mapIdx, List.getElem?_eq_getElem inside]
    simp only [Option.map_some, Option.getD_some, TableLayout.affinityAt,
      List.getElem?_eq_getElem inside]
    cases assignedValue? t changes (.cell i) <;> rfl

/-- The row of an assignment has the values in their columns and is otherwise as it was. -/
theorem rewrites_updatedRow (assigns : AssignsTo columns values changes)
    (apart : columns.Pairwise fun c e => Schema.sameName e.name c.name = false)
    (placed : ∀ column ∈ columns, (t.place? column.name).isSome = true)
    (updated : updatedRow t changes r = .ok r') : t.Rewrites columns values r r' where
  declared i column v declared given := by
    obtain ⟨place, found⟩ :=
      Option.isSome_iff_exists.mp (placed column (List.mem_of_getElem? declared))
    refine ⟨place, found, ?_⟩
    rw [valueAt_updatedRow updated (TableLayout.sameName_nameAt found).1,
      assigns.assignedValue?_eq_some apart declared given found]
  undeclared place mem undeclared := by
    rw [valueAt_updatedRow updated mem, assigns.assignedValue?_eq_none undeclared]

end Work

/-! ## Tables -/

namespace Tables

/-- Both are the same tables, but for the rows of those under the name. -/
def AgreeApart (name : String) (ts ts' : Tables) : Prop :=
  List.Forall₂ (fun t t' => t'.layout.name = t.layout.name ∧
    (Schema.sameName t.layout.name name = false → t' = t)) ts ts'

variable {ts ts' us vs : Tables} {name : String} {t t' : Table}

theorem AgreeApart.refl (name : String) (ts : Tables) : ts.AgreeApart name ts :=
  List.forall₂_same.mpr fun _ _ => ⟨rfl, fun _ => rfl⟩

theorem AgreeApart.trans (first : ts.AgreeApart name us) (second : us.AgreeApart name vs) :
    ts.AgreeApart name vs := by
  induction first generalizing vs with
  | nil => exact second
  | cons here _ ih =>
    cases second with
    | cons there rest =>
      refine .cons ⟨there.1.trans here.1, fun other => ?_⟩ (ih rest)
      cases here.2 other
      exact there.2 other

theorem agreeApart_put (found : ts.table? name = some t) (same : t'.layout = t.layout) :
    ts.AgreeApart name (ts.put t') := by
  refine List.forall₂_map_right_iff.mpr (List.forall₂_same.mpr fun u _ => ?_)
  split
  · rename_i here
    refine ⟨here.symm, fun other => ?_⟩
    have named := List.find?_some found
    rw [here, same, named] at other
    cases other
  · exact ⟨rfl, fun _ => rfl⟩

theorem AgreeApart.congr {other : String} (agree : ts.AgreeApart name ts')
    (same : Schema.sameName name other = true) : ts.AgreeApart other ts' := by
  refine agree.imp fun t t' => ?_
  rintro ⟨named, apart⟩
  refine ⟨named, fun differ => apart ?_⟩
  rw [← Bool.not_eq_true, Schema.sameName_iff] at differ ⊢
  rwa [Schema.sameName_iff.mp same]

end Tables

namespace Work

variable {w w' : Work} {t : Table} {r old new : Row} {enforced : Bool} {name : String}
  {changes : List (ColumnName × Value)} {rows : List Row}

/-- What an update makes of a row. -/
def rewritten (t : TableLayout) (changes : List (ColumnName × Value)) (r : Row) : Row :=
  (updatedRow t changes r).toOption.getD r

/-- An update takes the rows out of the table and puts what it makes of them in. -/
theorem runUpdate_ok (ran : runUpdate enforced name changes w rows = .ok w')
    (found : w.tables.table? name = some t) (keyed : t.IsKeyed) (sub : rows ⊆ t.rows)
    (distinct : (rows.map Row.key).Nodup) :
    ∃ t', w'.tables.table? name = some t' ∧ w.tables.AgreeApart name w'.tables ∧
      t'.layout = t.layout ∧
      (∀ r ∈ rows, updatedRow t.layout changes r = .ok (rewritten t.layout changes r)) ∧
      t'.rows.Perm (rows.map (rewritten t.layout changes)
        ++ t.rows.filter fun r => r.key ∉ rows.map Row.key) := by
  induction rows generalizing w t with
  | nil =>
    cases ran
    exact ⟨t, found, .refl _ _, rfl, fun _ => nofun, by simp⟩
  | cons r rest ih =>
    rw [runUpdate, found] at ran
    obtain ⟨new, updated, ran⟩ := bind_eq_ok ran
    obtain ⟨w₁, replaced, ran⟩ := bind_eq_ok ran
    obtain ⟨put, free⟩ := replaceRow_ok replaced
    obtain ⟨fresh, distinct⟩ := List.nodup_cons.mp distinct
    have made : rewritten t.layout changes r = new := by rw [rewritten, updated]; rfl
    have kept (q : Row) (mem : q ∈ rest) : q ∈ (t.erase r.key).rows := by
      refine List.mem_filter.mpr ⟨sub (List.mem_cons_of_mem _ mem), bne_iff_ne.mpr fun same => ?_⟩
      exact fresh (same ▸ List.mem_map_of_mem mem)
    have found₁ : w₁.tables.table? name = some ((t.erase r.key).insert new) := by
      rw [put]
      exact Tables.table?_put found rfl
    obtain ⟨t', found', agree, layout, each, perm⟩ := ih ran found₁
      ((keyed.erase r.key).insert free) (fun q mem => Table.mem_insert.mpr (.inr (kept q mem)))
      distinct
    have apart : w.tables.AgreeApart name w₁.tables := by
      rw [put]
      exact Tables.agreeApart_put found rfl
    refine ⟨t', found', apart.trans agree, layout,
      List.forall_mem_cons.mpr ⟨made ▸ updated, each⟩, ?_⟩
    have newcomer : new.key ∉ rest.map Row.key := by
      intro mem
      obtain ⟨q, hq, same⟩ := List.mem_map.mp mem
      rw [Table.hasKey_iff.mpr ⟨q, kept q hq, same⟩] at free
      cases free
    have others : (((t.erase r.key).insert new).rows.filter fun q => q.key ∉ rest.map Row.key).Perm
        (new :: t.rows.filter fun q => q.key ∉ (r :: rest).map Row.key) := by
      rw [← t.filter_erase, ← List.filter_cons_of_pos (by simpa using newcomer)]
      exact (Table.insertSorted_perm new _).filter _
    rw [List.map_cons, made]
    exact perm.trans ((others.append_left _).trans List.perm_middle)

/-- A deletion leaves the rows of the other keys. -/
theorem runDelete_ok (enforced : Bool) (found : w.tables.table? name = some t) :
    (runDelete enforced name w rows).tables.table? name
        = some { t with rows := t.rows.filter fun r => r.key ∉ rows.map Row.key } ∧
      w.tables.AgreeApart name (runDelete enforced name w rows).tables := by
  induction rows generalizing w t with
  | nil => exact ⟨by simpa [runDelete] using found, .refl _ _⟩
  | cons r rest ih =>
    have erased : (deleteRow enforced w t r).tables.table? name = some (t.erase r.key) :=
      Tables.table?_put found rfl
    have apart : w.tables.AgreeApart name (deleteRow enforced w t r).tables :=
      Tables.agreeApart_put found rfl
    obtain ⟨found', agree⟩ := ih erased
    rw [t.filter_erase] at found'
    rw [runDelete, found]
    exact ⟨found', apart.trans agree⟩

end Work

namespace Table

variable {t t' : Table} {found : List Row}

theorem IsKeyed.mem_iff (keyed : t.IsKeyed) (sub : found ⊆ t.rows) {r : Row} (mem : r ∈ t.rows) :
    r.key ∈ found.map Row.key ↔ r ∈ found := by
  refine ⟨fun key => ?_, List.mem_map_of_mem⟩
  obtain ⟨q, hq, same⟩ := List.mem_map.mp key
  rwa [← List.inj_on_of_nodup_map keyed (sub hq) mem same]

theorem IsKeyed.filter_not_mem (keyed : t.IsKeyed) (sub : found ⊆ t.rows) :
    (t.rows.filter fun r => r.key ∉ found.map Row.key) = t.rows.filter fun r => r ∉ found :=
  List.filter_congr fun _ mem => decide_eq_decide.mpr (not_congr (keyed.mem_iff sub mem))

/-- The rows of a table are those that were found and the rest. -/
theorem IsKeyed.perm_append (keyed : t.IsKeyed) (sub : found ⊆ t.rows) (distinct : found.Nodup) :
    t.rows.Perm (found ++ t.rows.filter fun r => r ∉ found) := by
  have rows : t.rows.Nodup := keyed.of_map
  refine (List.perm_ext_iff_of_nodup rows (distinct.append (rows.filter _) ?_)).mpr fun r => ?_
  · intro r here there
    simpa [here] using List.mem_filter.mp there
  · simp only [List.mem_append, List.mem_filter, decide_eq_true_eq]
    exact ⟨fun mem => (Classical.em (r ∈ found)).imp_right fun other => ⟨mem, other⟩,
      fun mem => mem.elim (fun here => sub here) fun there => there.1⟩

/-- In the rows that were found the columns have the values, and all else is as it was. -/
structure IsRewritten (columns : List Column) (values : List Value) (found : List Row)
    (t t' : Table) : Prop where
  arity : values.length = columns.length
  layout : t'.layout = t.layout
  rows : ∃ change : Row → Row, t'.rows.Perm (t.rows.map change) ∧
    (∀ r ∈ found, t.layout.Rewrites columns values r (change r)) ∧ ∀ r ∉ found, change r = r

theorem isRewritten_of_perm {columns : List Column} {values : List Value}
    {changes : List (ColumnName × Value)} (arity : values.length = columns.length)
    (assigns : AssignsTo columns values changes)
    (apart : columns.Pairwise fun c e => Schema.sameName e.name c.name = false)
    (placed : ∀ column ∈ columns, (t.layout.place? column.name).isSome = true)
    (keyed : t.IsKeyed) (sub : found ⊆ t.rows) (distinct : found.Nodup)
    (layout : t'.layout = t.layout)
    (each : ∀ r ∈ found,
      Work.updatedRow t.layout changes r = .ok (Work.rewritten t.layout changes r))
    (perm : t'.rows.Perm (found.map (Work.rewritten t.layout changes)
      ++ t.rows.filter fun r => r.key ∉ found.map Row.key)) :
    IsRewritten columns values found t t' := by
  let change (r : Row) : Row := if r ∈ found then Work.rewritten t.layout changes r else r
  have here : found.map change = found.map (Work.rewritten t.layout changes) :=
    List.map_congr_left fun r mem => if_pos mem
  have there : (t.rows.filter fun r => r ∉ found).map change
      = t.rows.filter fun r => r ∉ found := by
    refine (List.map_congr_left fun _ mem => ?_).trans (List.map_id _)
    exact if_neg (by simpa using (List.mem_filter.mp mem).2)
  refine ⟨arity, layout, change, ?_, fun r mem => ?_, fun r other => if_neg other⟩
  · have both := (keyed.perm_append sub distinct).map change
    rw [List.map_append, here, there] at both
    rw [keyed.filter_not_mem sub] at perm
    exact perm.trans both.symm
  · have same : change r = Work.rewritten t.layout changes r := if_pos mem
    rw [same]
    exact Work.rewrites_updatedRow assigns apart placed (each r mem)

end Table

end RecordStore
