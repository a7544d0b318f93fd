import RecordStore.Proofs.Number.Order
import RecordStore.Proofs.Store.Tables

/-!
References. A row of LINKS refers to a row of ENTRIES, and nothing else refers to anything. The
engine looks a reference up by the key that its value is, and finds the referrers of a key by
comparing their values with it.
-/
namespace RecordStore

-- Sums of numbers are those of the core library, whatever algebra is imported beside it.
attribute [local instance (high)] Zero.ofOfNat0

open Sql

/-! ## Values of an integer column -/

namespace Value

theorem numeric_numeric (v : Value) : v.numeric.numeric = v.numeric := by
  cases v with
  | null | integer | real | blob => rfl
  | text s =>
    rw [numeric]
    cases read : ofNumericText? s with
    | none => simp only [Option.getD_none, numeric, read]
    | some u =>
      rw [Option.getD_some]
      obtain ⟨n, _, rfl⟩ := Option.map_eq_some_iff.mp read
      split <;> rfl

theorem numeric_integral {v : Value} (number : v.numeric = v) :
    v.integral.numeric = v.integral := by
  cases v with
  | null | integer | text | blob => exact number
  | real x =>
    simp only [integral]
    split
    · split <;> rfl
    · rfl

theorem integral_integral (v : Value) : v.integral.integral = v.integral := by
  cases v with
  | null | integer | text | blob => rfl
  | real x =>
    cases whole : x.toInt?.bind int64? with
    | none => simp only [integral, whole]
    | some i =>
      by_cases least : i = Int64.minValue
      · simp only [integral, whole, if_pos least]
      · simp only [integral, whole, if_neg least]

/-- An integer column keeps the value as it is. -/
def IsKept (v : Value) : Prop := v.numeric.integral = v

theorem isKept_store (v : Value) : (Affinity.integer.store v).IsKept := by
  show v.numeric.integral.numeric.integral = v.numeric.integral
  rw [numeric_integral v.numeric_numeric, integral_integral]

theorem IsKept.numeric {v : Value} (kept : v.IsKept) : v.numeric = v := by
  rw [← kept]
  exact numeric_integral v.numeric_numeric

theorem IsKept.toKey? {v : Value} (kept : v.IsKept) {key : Int64} :
    v.toKey? = some key ↔ v = .integer key := by
  rw [Value.toKey?, kept]
  cases v <;> simp

/-- An integer column keeps the real that equals the least key as a real: looked up it is no key,
but compared with the key it is equal. -/
def isAstray (v : Value) : Bool :=
  v != .integer Int64.minValue && v.storedOrder? (.integer Int64.minValue) == some .eq

/-- Apart from that one value, the two ways to find a reference agree. -/
theorem IsKept.storedOrder? {v : Value} (kept : v.IsKept) (tame : v.isAstray = false)
    (key : Int64) : (v.storedOrder? (.integer key) == some .eq) = (v == .integer key) := by
  rw [Bool.eq_iff_iff, beq_iff_eq, beq_iff_eq]
  constructor
  · intro equal
    have found := equal
    rw [← kept.numeric] at found
    rcases toKey?_of_equal found with named | ⟨rfl, _⟩
    · exact kept.toKey?.mp named
    · by_contra apart
      simp [isAstray, apart, equal] at tame
  · rintro rfl
    simp [Value.storedOrder?]

end Value

/-! ## Links -/

namespace Row

/-- The ENTRY_ID of a row of LINKS. -/
def target (r : Row) : Value := r.valueAt (.cell 0)

/-- A row as LINKS may have it. -/
structure IsLink (r : Row) : Prop where
  kept : r.target.IsKept
  required : r.target ≠ .null

/-- The row refers to no row of the table. -/
def lacks (entries : Table) (r : Row) : Bool :=
  match r.target with
  | .integer key => !entries.hasKey key
  | _ => true

theorem cells_of_target {r : Row} (required : r.target ≠ .null) :
    ∃ rest, r.cells = r.target :: rest := by
  cases cells : r.cells with
  | nil => simp [target, valueAt, cells] at required
  | cons v rest => exact ⟨rest, by simp [target, valueAt, cells]⟩

end Row

/-- How many links refer to no entry. -/
def openLinks (entries : Table) (links : List Row) : Nat := links.countP (Row.lacks entries)

namespace Table

variable {t : Table} {r : Row} {key other : Int64}

theorem hasKey_erase : (t.erase key).hasKey other = (t.hasKey other && other != key) := by
  rw [Bool.eq_iff_iff, Bool.and_eq_true, hasKey_iff, hasKey_iff, bne_iff_ne]
  simp only [erase, List.mem_filter, bne_iff_ne]
  constructor
  · rintro ⟨s, ⟨mem, apart⟩, rfl⟩
    exact ⟨⟨s, mem, rfl⟩, apart⟩
  · rintro ⟨⟨s, mem, rfl⟩, apart⟩
    exact ⟨s, ⟨mem, apart⟩, rfl⟩

theorem hasKey_insert : (t.insert r).hasKey other = (t.hasKey other || r.key == other) := by
  rw [hasKey, insert, (insertSorted_perm r t.rows).any_eq, List.any_cons, Bool.or_comm]
  rfl

/-- A row of the table is the only one that leaves with its key. -/
theorem IsKeyed.perm_erase (keyed : t.IsKeyed) (mem : r ∈ t.rows) :
    t.rows.Perm (r :: (t.erase r.key).rows) := by
  have only : t.rows.filter (·.key == r.key) = [r] := by
    have same : t.rows.filter (·.key == r.key) = t.rows.filter (· == r) := by
      refine List.filter_congr fun s hs => ?_
      rw [Bool.eq_iff_iff, beq_iff_eq, beq_iff_eq]
      exact ⟨fun same => List.inj_on_of_nodup_map keyed hs mem same, fun same => same ▸ rfl⟩
    rw [same, List.filter_beq, List.count_eq_one_of_mem (List.Nodup.of_map _ keyed) mem]
    rfl
  have parts := List.filter_append_perm (·.key == r.key) t.rows
  rw [only] at parts
  exact parts.symm

end Table

/-! ## The number of open links -/

section

variable {entries : Table} {links : List Row} {r : Row} {key : Int64}

/-- The links to an entry are open once it has left. -/
theorem openLinks_erase (present : entries.hasKey key = true) (links : List Row) :
    openLinks (entries.erase key) links
      = openLinks entries links + links.countP (·.target == .integer key) := by
  rw [openLinks, openLinks]
  induction links with
  | nil => rfl
  | cons r rest ih =>
    have here : (if (r.lacks (entries.erase key)) = true then 1 else 0)
        = (if (r.lacks entries) = true then 1 else 0)
          + if (r.target == .integer key) = true then 1 else 0 := by
      cases target : r.target with
      | integer other =>
        by_cases same : other = key
        · simp [Row.lacks, target, Table.hasKey_erase, same, present]
        · simp [Row.lacks, target, Table.hasKey_erase, same]
      | null | real | text | blob => simp [Row.lacks, target]
    simp only [List.countP_cons]
    omega

/-- The links to a key are mended once an entry has come under it. -/
theorem openLinks_insert (absent : entries.hasKey r.key = false) (links : List Row) :
    openLinks entries links
      = openLinks (entries.insert r) links + links.countP (·.target == .integer r.key) := by
  have present : (entries.insert r).hasKey r.key = true := by
    rw [Table.hasKey_insert, beq_self_eq_true, Bool.or_true]
  rw [← openLinks_erase present, openLinks, openLinks]
  refine List.countP_congr fun s _ => ?_
  unfold Row.lacks
  split
  · rename_i other _
    rw [Table.hasKey_erase, Table.hasKey_insert]
    by_cases same : other = r.key
    · simp [same, absent]
    · have apart : (r.key == other) = false := beq_eq_false_iff_ne.mpr (Ne.symm same)
      simp [same, apart]
  · rfl

end

/-! ## What the engine counts -/

def linkCell : CellLayout := ⟨"ENTRY_ID", .integer, true, some "ENTRIES"⟩

/-- The tables of the store, with rows as they may have them. -/
structure Tables.AreStored (ts : Tables) (entries links items : Table) : Prop where
  shape : ts = [entries, links, items]
  ofEntries : entries.layout = entriesLayout
  ofLinks : links.layout = linksLayout
  ofItems : items.layout = itemsLayout
  keyed : ∀ t ∈ ts, t.IsKeyed
  kept : ∀ r ∈ links.rows, r.IsLink

theorem Tables.AreStored.hasKey_entries {ts : Tables} {e l i : Table} (stored : ts.AreStored e l i)
    (key : Int64) : ts.hasKey "ENTRIES" key = e.hasKey key := by
  have here : Schema.sameName e.layout.name "ENTRIES" = true := by
    rw [stored.ofEntries]
    decide
  simp [Tables.hasKey, Tables.table?, stored.shape, here]

/-- No link is one whose two ways to be found disagree. -/
def Table.IsTame (links : Table) : Prop := ∀ r ∈ links.rows, r.target.isAstray = false

instance (links : Table) : Decidable links.IsTame :=
  inferInstanceAs (Decidable (∀ r ∈ links.rows, r.target.isAstray = false))

namespace Work

theorem mend_eq {balance : Int} {count : Nat} (none : balance = 0 → count = 0) :
    mend balance count = balance - count := by
  unfold mend
  split
  · rename_i zero
    rw [none zero, zero]
    rfl
  · rfl

theorem danglingCells_unreferring {layout : TableLayout}
    (unreferring : ∀ cell ∈ layout.cells, cell.references = none) (ts : Tables)
    (counts : CellLayout → Bool) (r : Row) : danglingCells ts counts layout r = 0 := by
  refine List.countP_eq_zero.mpr ?_
  rintro ⟨cell, v⟩ mem
  simp [isDangling, unreferring cell (List.of_mem_zip mem).1]

variable {ts : Tables} {e l i : Table} {r : Row}

theorem danglingCells_link (stored : ts.AreStored e l i) (link : r.IsLink)
    (counts : CellLayout → Bool) :
    danglingCells ts counts linksLayout r = if counts linkCell && r.lacks e then 1 else 0 := by
  obtain ⟨rest, cells⟩ := Row.cells_of_target link.required
  have dangling : isDangling ts linkCell r.target = r.lacks e := by
    have solid : (r.target != .null) = true := bne_iff_ne.mpr link.required
    simp only [isDangling, linkCell, solid, Bool.true_and, stored.hasKey_entries]
    cases target : r.target with
    | integer key =>
      have found := link.kept.toKey?.mpr target
      rw [target] at found
      simp [found, Row.lacks, target]
    | null | real | text | blob =>
      have none : r.target.toKey? = none := by
        rw [Option.eq_none_iff_forall_ne_some]
        intro key found
        rw [link.kept.toKey?.mp found] at target
        cases target
      rw [target] at none
      simp [none, Row.lacks, target]
  rw [danglingCells, cells]
  show List.countP _ [(linkCell, r.target)] = _
  simp only [List.countP_singleton, dangling]

def refersTo (parent : String) (key : Int64) (pair : CellLayout × Value) : Bool :=
  (pair.1.references.any fun p => Schema.sameName p parent) &&
    pair.2.storedOrder? (.integer key) == some .eq

theorem referrers_of_unreferring (t : Table) {parent : String}
    (unreferring : ∀ cell ∈ t.layout.cells,
      (cell.references.any fun p => Schema.sameName p parent) = false) (key : Int64) :
    (t.rows.map fun r => (t.layout.cells.zip r.cells).countP (refersTo parent key)).sum = 0 := by
  refine List.sum_eq_zero_iff_forall_eq_nat.mpr fun n mem => ?_
  obtain ⟨r, _, rfl⟩ := List.mem_map.mp mem
  refine List.countP_eq_zero.mpr ?_
  rintro ⟨cell, v⟩ pair
  simp [refersTo, unreferring cell (List.of_mem_zip pair).1]

theorem referrers_eq (stored : ts.AreStored e l i) (parent : String) (key : Int64) :
    referrers ts parent key
      = (l.rows.map fun r => (l.layout.cells.zip r.cells).countP (refersTo parent key)).sum := by
  have entries : (e.rows.map fun r =>
      (e.layout.cells.zip r.cells).countP (refersTo parent key)).sum = 0 := by
    refine referrers_of_unreferring e ?_ key
    rw [stored.ofEntries]
    simp [entriesLayout]
  have items : (i.rows.map fun r =>
      (i.layout.cells.zip r.cells).countP (refersTo parent key)).sum = 0 := by
    refine referrers_of_unreferring i ?_ key
    rw [stored.ofItems]
    simp [itemsLayout]
  have all : referrers ts parent key = (ts.map fun t => (t.rows.map fun r =>
      (t.layout.cells.zip r.cells).countP (refersTo parent key)).sum).sum := rfl
  rw [all, stored.shape, List.map_cons, List.map_cons, List.map_singleton, List.sum_cons,
    List.sum_cons, List.sum_singleton, entries, items, Nat.zero_add, Nat.add_zero]

theorem referrers_entries (stored : ts.AreStored e l i) (tame : l.IsTame) (key : Int64) :
    referrers ts "ENTRIES" key = l.rows.countP (·.target == .integer key) := by
  rw [referrers_eq stored, stored.ofLinks]
  have kept := stored.kept
  unfold Table.IsTame at tame
  generalize l.rows = rows at kept tame
  induction rows with
  | nil => rfl
  | cons r rest ih =>
    obtain ⟨link, links⟩ := List.forall_mem_cons.mp kept
    obtain ⟨first, others⟩ := List.forall_mem_cons.mp tame
    obtain ⟨tail, cells⟩ := Row.cells_of_target link.required
    have here : (linksLayout.cells.zip r.cells).countP (refersTo "ENTRIES" key)
        = if r.target == .integer key then 1 else 0 := by
      have parent : Schema.sameName "ENTRIES" "ENTRIES" = true := by decide
      rw [cells]
      show List.countP _ [(linkCell, r.target)] = _
      simp only [List.countP_singleton, refersTo, linkCell, Option.any_some, parent, Bool.true_and,
        link.kept.storedOrder? first]
    rw [List.map_cons, List.sum_cons, ih links others, here, List.countP_cons, Nat.add_comm]

theorem referrers_other (stored : ts.AreStored e l i) {parent : String}
    (other : Schema.sameName "ENTRIES" parent = false) (key : Int64) :
    referrers ts parent key = 0 := by
  rw [referrers_eq stored]
  refine referrers_of_unreferring l ?_ key
  rw [stored.ofLinks]
  simp [linksLayout, other]

end Work

end RecordStore
