import RecordStore.Proofs.Store.References
import RecordStore.Proofs.Store.Selection
import RecordStore.Proofs.Store.Steps

/-!
The balance of open references. Whatever row comes, goes or is replaced, it stays the number of
links that refer to no entry.
-/
namespace RecordStore

open Sql

namespace Tables

variable {ts : Tables} {e l i t : Table}

/-- No row of LINKS refers to the least key as a real. -/
def IsTame (ts : Tables) : Prop := ∀ links ∈ ts.table? "LINKS", links.IsTame

instance (ts : Tables) : Decidable ts.IsTame :=
  inferInstanceAs (Decidable (∀ links ∈ ts.table? "LINKS", links.IsTame))

namespace AreStored

theorem cases (stored : ts.AreStored e l i) (mem : t ∈ ts) : t = e ∨ t = l ∨ t = i := by
  rw [stored.shape] at mem
  simpa using mem

theorem links (stored : ts.AreStored e l i) (mem : t ∈ ts) (ofLinks : t.layout = linksLayout) :
    t = l := by
  rcases stored.cases mem with rfl | rfl | rfl
  · exact absurd (stored.ofEntries.symm.trans ofLinks) (by decide)
  · rfl
  · exact absurd (stored.ofItems.symm.trans ofLinks) (by decide)

theorem names (stored : ts.AreStored e l i) :
    e.layout.name = "ENTRIES" ∧ l.layout.name = "LINKS" ∧ i.layout.name = "ITEMS" := by
  rw [stored.ofEntries, stored.ofLinks, stored.ofItems]
  exact ⟨rfl, rfl, rfl⟩

theorem table?_self (stored : ts.AreStored e l i) (mem : t ∈ ts) :
    ts.table? t.layout.name = some t := by
  obtain ⟨entries, links, items⟩ := stored.names
  rcases stored.cases mem with rfl | rfl | rfl
  · simp [Tables.table?, stored.shape, entries, Schema.sameName]
  · rw [Tables.table?, stored.shape, List.find?_cons_of_neg, List.find?_cons_of_pos]
    · rw [links]; decide
    · rw [entries, links]; decide
  · rw [Tables.table?, stored.shape, List.find?_cons_of_neg, List.find?_cons_of_neg,
      List.find?_cons_of_pos]
    · rw [items]; decide
    · rw [links, items]; decide
    · rw [entries, items]; decide

theorem tame (stored : ts.AreStored e l i) (tame : ts.IsTame) : l.IsTame := by
  have mem : l ∈ ts := by simp [stored.shape]
  have found := stored.table?_self mem
  rw [stored.names.2.1] at found
  exact tame l found

theorem putEntries (stored : ts.AreStored e l i) (same : t.layout = e.layout)
    (keyed : t.IsKeyed) : (ts.put t).AreStored t l i where
  shape := by
    obtain ⟨entries, links, items⟩ := stored.names
    rw [Tables.put, stored.shape]
    simp [same, entries, links, items]
  ofEntries := same.trans stored.ofEntries
  ofLinks := stored.ofLinks
  ofItems := stored.ofItems
  keyed := forall_mem_put stored.keyed keyed
  kept := stored.kept

theorem putLinks (stored : ts.AreStored e l i) (same : t.layout = l.layout)
    (keyed : t.IsKeyed) (kept : ∀ r ∈ t.rows, r.IsLink) : (ts.put t).AreStored e t i where
  shape := by
    obtain ⟨entries, links, items⟩ := stored.names
    rw [Tables.put, stored.shape]
    simp [same, entries, links, items]
  ofEntries := stored.ofEntries
  ofLinks := same.trans stored.ofLinks
  ofItems := stored.ofItems
  keyed := forall_mem_put stored.keyed keyed
  kept := kept

theorem putItems (stored : ts.AreStored e l i) (same : t.layout = i.layout)
    (keyed : t.IsKeyed) : (ts.put t).AreStored e l t where
  shape := by
    obtain ⟨entries, links, items⟩ := stored.names
    rw [Tables.put, stored.shape]
    simp [same, entries, links, items]
  ofEntries := stored.ofEntries
  ofLinks := stored.ofLinks
  ofItems := same.trans stored.ofItems
  keyed := forall_mem_put stored.keyed keyed
  kept := stored.kept

end AreStored

end Tables

namespace Table

variable {t : Table} {r : Row}

theorem links_erase (kept : ∀ s ∈ t.rows, s.IsLink) (key : Int64) :
    ∀ s ∈ (t.erase key).rows, s.IsLink :=
  fun s mem => kept s (mem_of_mem_erase mem)

theorem links_insert (kept : ∀ s ∈ t.rows, s.IsLink) (link : r.IsLink) :
    ∀ s ∈ (t.insert r).rows, s.IsLink := by
  intro s mem
  rcases mem_insert.mp mem with rfl | old
  · exact link
  · exact kept s old

end Table

/-! ## One row -/

namespace Work

/-- The balance is the number of open links. -/
structure Balances (w : Work) (entries links items : Table) : Prop where
  stored : w.tables.AreStored entries links items
  balance : w.openReferences = openLinks entries links.rows

variable {w w' : Work} {e l i t : Table} {r old new : Row}

theorem openLinks_links_insert (entries : Table) (t : Table) (r : Row) :
    openLinks entries (t.insert r).rows
      = openLinks entries t.rows + if r.lacks entries then 1 else 0 := by
  rw [openLinks, Table.insert, (Table.insertSorted_perm r t.rows).countP_eq, List.countP_cons]
  rfl

theorem openLinks_links_erase (entries : Table) (keyed : t.IsKeyed) (mem : r ∈ t.rows) :
    openLinks entries t.rows
      = openLinks entries (t.erase r.key).rows + if r.lacks entries then 1 else 0 := by
  rw [openLinks, (keyed.perm_erase mem).countP_eq, List.countP_cons]
  rfl

section

variable {ts : Tables}

theorem danglingCells_entries (stored : ts.AreStored e l i) (counts : CellLayout → Bool)
    (r : Row) : danglingCells ts counts e.layout r = 0 := by
  rw [stored.ofEntries, danglingCells_unreferring (by simp [entriesLayout])]

theorem danglingCells_items (stored : ts.AreStored e l i) (counts : CellLayout → Bool)
    (r : Row) : danglingCells ts counts i.layout r = 0 := by
  rw [stored.ofItems, danglingCells_unreferring (by simp [itemsLayout])]

theorem referrers_links (stored : ts.AreStored e l i) (key : Int64) :
    referrers ts l.layout.name key = 0 := by
  rw [stored.names.2.1]
  exact referrers_other stored (by decide) key

theorem referrers_items (stored : ts.AreStored e l i) (key : Int64) :
    referrers ts i.layout.name key = 0 := by
  rw [stored.names.2.2]
  exact referrers_other stored (by decide) key

end

/-! What a row adds to the balance and takes from it depends on its table. -/

theorem mend_zero (balance : Int) : mend balance 0 = balance := by
  rw [mend_eq fun _ => rfl]
  exact Int.sub_zero balance

theorem balanceWithout_entries (stored : w.tables.AreStored e l i) (tame : l.IsTame)
    (counts : CellLayout → Bool) (keyCounts : Bool) (r : Row) :
    w.balanceWithout counts keyCounts e r = w.openReferences
      + (if keyCounts then l.rows.countP (·.target == .integer r.key) else 0 : Nat) := by
  rw [balanceWithout, danglingCells_entries stored, mend_zero, stored.names.1,
    referrers_entries stored tame]
  cases keyCounts <;> simp

theorem balanceWith_entries {balance : Int} {ts : Tables} (stored : ts.AreStored e l i)
    (tame : l.IsTame) {keyCounts : Bool} {r : Row} (counts : CellLayout → Bool)
    (none : balance = 0 → keyCounts = true → l.rows.countP (·.target == .integer r.key) = 0) :
    balanceWith ⟨ts, balance⟩ counts keyCounts e r
      = balance - (if keyCounts then l.rows.countP (·.target == .integer r.key) else 0 : Nat) := by
  simp only [balanceWith, danglingCells_entries stored]
  rw [stored.names.1, referrers_entries stored tame]
  cases keyCounts with
  | false => simp
  | true =>
    simp only [if_true]
    rw [mend_eq fun closed => none (by omega) rfl]
    omega

theorem balanceWithout_links (stored : w.tables.AreStored e l i) (link : r.IsLink)
    (counts : CellLayout → Bool) (keyCounts : Bool) :
    w.balanceWithout counts keyCounts l r
      = mend w.openReferences (if counts linkCell && r.lacks e then 1 else 0) := by
  rw [balanceWithout, referrers_links stored, stored.ofLinks, danglingCells_link stored link]
  cases keyCounts <;> simp

theorem balanceWith_links {balance : Int} {ts : Tables} (stored : ts.AreStored e l i)
    (link : r.IsLink) (counts : CellLayout → Bool) (keyCounts : Bool) :
    balanceWith ⟨ts, balance⟩ counts keyCounts l r
      = balance + (if counts linkCell && r.lacks e then 1 else 0 : Nat) := by
  simp only [balanceWith, referrers_links stored, mend_zero]
  rw [stored.ofLinks, danglingCells_link stored link]
  cases keyCounts <;> simp

theorem balanceWithout_items (stored : w.tables.AreStored e l i) (counts : CellLayout → Bool)
    (keyCounts : Bool) (r : Row) : w.balanceWithout counts keyCounts i r = w.openReferences := by
  rw [balanceWithout, danglingCells_items stored, referrers_items stored, mend_zero]
  cases keyCounts <;> simp

theorem balanceWith_items {balance : Int} {ts : Tables} (stored : ts.AreStored e l i)
    (counts : CellLayout → Bool) (keyCounts : Bool) (r : Row) :
    balanceWith ⟨ts, balance⟩ counts keyCounts i r = balance := by
  simp only [balanceWith, danglingCells_items stored, referrers_items stored, mend_zero]
  cases keyCounts <;> simp

/-- A row has come: its reference may be open, and those to its key are mended. -/
theorem insertRow_balances (balanced : w.Balances e l i) (tame : l.IsTame) (mem : t ∈ w.tables)
    (link : t.layout = linksLayout → r.IsLink) (inserted : insertRow true w t r = .ok w') :
    ∃ e' l' i', w'.Balances e' l' i' := by
  obtain ⟨stored, balance⟩ := balanced
  obtain ⟨_, checked, done⟩ := bind_eq_ok inserted
  cases Except.ok.inj done
  have absent := hasKey_of_checkRow checked
  have keyed := (stored.keyed t mem).insert absent
  rcases stored.cases mem with rfl | rfl | rfl
  · refine ⟨_, _, _, stored.putEntries rfl keyed, ?_⟩
    have mended := openLinks_insert absent l.rows
    simp only [balanceIf, if_true]
    -- what is mended was open before, so there is nothing to mend at zero
    rw [balanceWith_entries stored tame _ fun _ _ => by omega, if_pos rfl]
    omega
  · have new := link stored.ofLinks
    have kept := Table.links_insert stored.kept new
    refine ⟨_, _, _, stored.putLinks rfl keyed kept, ?_⟩
    simp only [balanceIf, if_true, balanceWith_links stored new, balance,
      openLinks_links_insert, Bool.true_and]
    omega
  · refine ⟨_, _, _, stored.putItems rfl keyed, ?_⟩
    simp only [balanceIf, if_true, balanceWith_items stored, balance]

/-- A row has gone: its open reference is gone too, and those to its key are open. -/
theorem deleteRow_balances (balanced : w.Balances e l i) (tame : l.IsTame) (mem : t ∈ w.tables)
    (present : r ∈ t.rows) :
    ∃ e' l' i', (deleteRow true w t r).Balances e' l' i' ∧ l'.rows ⊆ l.rows := by
  obtain ⟨stored, balance⟩ := balanced
  have keyed := (stored.keyed t mem).erase r.key
  rcases stored.cases mem with rfl | rfl | rfl
  · refine ⟨_, _, _, ⟨stored.putEntries rfl keyed, ?_⟩, fun _ mem => mem⟩
    have opened := openLinks_erase (Table.hasKey_iff.mpr ⟨r, present, rfl⟩) l.rows
    simp only [deleteRow, balanceIf, if_true, balanceWithout_entries stored tame]
    omega
  · have kept := Table.links_erase stored.kept r.key
    refine ⟨_, _, _, ⟨stored.putLinks rfl keyed kept, ?_⟩,
      fun _ => Table.mem_of_mem_erase⟩
    have fewer := openLinks_links_erase e (stored.keyed t mem) present
    simp only [deleteRow, balanceIf, if_true, balanceWithout_links stored (stored.kept r present),
      Bool.true_and]
    rw [mend_eq (by omega)]
    omega
  · refine ⟨_, _, _, ⟨stored.putItems rfl keyed, ?_⟩, fun _ mem => mem⟩
    simp only [deleteRow, balanceIf, if_true, balanceWithout_items stored, balance]

/-! A row takes the place of another. A reference or a key that is not assigned is the old one,
and the engine leaves it out of the balance. -/

section

variable {assigned : ColumnPlace → Bool}

theorem replaceRow_entries (balanced : w.Balances e l i) (tame : l.IsTame) (present : old ∈ e.rows)
    (sameKey : assigned .key = false → new.key = old.key)
    (replaced : replaceRow true assigned w e old new = .ok w') :
    w'.Balances ((e.erase old.key).insert new) l i := by
  obtain ⟨stored, balance⟩ := balanced
  obtain ⟨_, checked, done⟩ := bind_eq_ok replaced
  cases Except.ok.inj done
  have absent := hasKey_of_checkRow checked
  have erased := (stored.keyed e (by simp [stored.shape])).erase old.key
  have without := stored.putEntries (t := e.erase old.key) rfl erased
  refine ⟨without.putEntries rfl (erased.insert absent), ?_⟩
  have opened := openLinks_erase (Table.hasKey_iff.mpr ⟨old, present, rfl⟩) l.rows
  have mended := openLinks_insert absent l.rows
  simp only [balanceIf, if_true, balanceWithout_entries stored tame]
  -- without a new key the links to the old one are neither opened nor mended
  cases key : assigned .key with
  | true =>
    simp only [if_true]
    rw [balanceWith_entries without tame _ fun _ _ => by omega, if_pos rfl]
    omega
  | false =>
    rw [balanceWith_entries without tame _ (by simp)]
    rw [sameKey key] at mended
    simp only [Bool.false_eq_true, if_false]
    omega

theorem replaceRow_links (balanced : w.Balances e l i) (present : old ∈ l.rows) (link : new.IsLink)
    (sameTarget : assigned (.cell 0) = false → new.target = old.target)
    (replaced : replaceRow true assigned w l old new = .ok w') :
    w'.Balances e ((l.erase old.key).insert new) i := by
  obtain ⟨stored, balance⟩ := balanced
  obtain ⟨_, checked, done⟩ := bind_eq_ok replaced
  cases Except.ok.inj done
  have own := stored.keyed l (by simp [stored.shape])
  have erased := own.erase old.key
  have kept := Table.links_erase stored.kept old.key
  have without := stored.putLinks (t := l.erase old.key) rfl erased kept
  refine ⟨without.putLinks rfl (erased.insert (hasKey_of_checkRow checked))
    (Table.links_insert kept link), ?_⟩
  have fewer := openLinks_links_erase e own present
  have counts :
      ((l.layout.place? linkCell.name).map assigned).getD false = assigned (.cell 0) := by
    rw [stored.ofLinks]
    rfl
  simp only [balanceIf, if_true, balanceWithout_links stored (stored.kept old present)]
  rw [balanceWith_links without link]
  simp only [counts, balance, openLinks_links_insert]
  cases reference : assigned (.cell 0) with
  | true =>
    rw [Bool.true_and, Bool.true_and, mend_eq (by omega)]
    omega
  | false =>
    have same : new.lacks e = old.lacks e := by
      rw [Row.lacks, Row.lacks, sameTarget reference]
    simp only [Bool.false_and, Bool.false_eq_true, if_false, mend_zero, same]
    omega

theorem replaceRow_items (balanced : w.Balances e l i)
    (replaced : replaceRow true assigned w i old new = .ok w') :
    w'.Balances e l ((i.erase old.key).insert new) := by
  obtain ⟨stored, balance⟩ := balanced
  obtain ⟨_, checked, done⟩ := bind_eq_ok replaced
  cases Except.ok.inj done
  have erased := (stored.keyed i (by simp [stored.shape])).erase old.key
  have without := stored.putItems (t := i.erase old.key) rfl erased
  refine ⟨without.putItems rfl (erased.insert (hasKey_of_checkRow checked)), ?_⟩
  simp only [balanceIf, if_true, balanceWithout_items stored]
  rw [balanceWith_items without]
  exact balance

theorem replaceRow_balances (balanced : w.Balances e l i)
    (tame : t.layout ≠ linksLayout → l.IsTame) (mem : t ∈ w.tables) (present : old ∈ t.rows)
    (link : t.layout = linksLayout → new.IsLink)
    (sameKey : assigned .key = false → new.key = old.key)
    (sameTarget : t.layout = linksLayout → assigned (.cell 0) = false → new.target = old.target)
    (replaced : replaceRow true assigned w t old new = .ok w') :
    ∃ e' l' i', w'.Balances e' l' i' ∧ (t.layout ≠ linksLayout → l' = l) := by
  have stored := balanced.stored
  rcases stored.cases mem with rfl | rfl | rfl
  · have tame := tame (by rw [stored.ofEntries]; decide)
    exact ⟨_, _, _, replaceRow_entries balanced tame present sameKey replaced, fun _ => rfl⟩
  · have ofLinks := stored.ofLinks
    exact ⟨_, _, _, replaceRow_links balanced present (link ofLinks) (sameTarget ofLinks) replaced,
      fun other => absurd ofLinks other⟩
  · exact ⟨_, _, _, replaceRow_items balanced replaced, fun _ => rfl⟩

end

/-! ## Statements -/

variable {assignments : List (ColumnName × Value)} {rows : List Row} {name : String}

theorem required_of_checkRow (checked : checkRow t r = .ok ()) :
    ∀ p ∈ t.layout.cells.zip r.cells, p.1.required = true → p.2 ≠ .null := by
  rintro p mem required null
  have missing : missingCell? t.layout r ≠ none := by
    intro none
    have all := List.find?_eq_none.mp (Option.map_eq_none_iff.mp none)
    exact all p mem (by simp [required, null])
  obtain ⟨cell, found⟩ := Option.ne_none_iff_exists'.mp missing
  rw [checkRow, found] at checked
  cases checked

theorem target_assigned (key : Int64) (assignments : List (ColumnName × Value))
    (default : Nat → Value) :
    Row.target ⟨key, assignedCells linksLayout assignments default⟩
      = match assignedValue? linksLayout assignments (.cell 0) with
        | some v => Affinity.integer.store v
        | none => default 0 := rfl

/-- A row that has been checked is one that LINKS may have. -/
theorem isLink_assigned {key : Int64} {default : Nat → Value} (ofLinks : t.layout = linksLayout)
    (kept : (default 0).IsKept)
    (checked : checkRow t ⟨key, assignedCells t.layout assignments default⟩ = .ok ()) :
    Row.IsLink ⟨key, assignedCells t.layout assignments default⟩ := by
  have required := required_of_checkRow checked
  rw [ofLinks] at required ⊢
  constructor
  · rw [target_assigned]
    split
    · exact Value.isKept_store _
    · exact kept
  · exact required (linkCell, _) (List.mem_singleton_self _) rfl

theorem runInsert_balances (balanced : w.Balances e l i) (tame : l.IsTame) (mem : t ∈ w.tables)
    (ran : runInsert true w t assignments = .ok w') : ∃ e' l' i', w'.Balances e' l' i' := by
  have inserted {key : Int64}
      (ran : insertRow true w t ⟨key, assignedCells t.layout assignments fun _ => .null⟩
        = .ok w') : ∃ e' l' i', w'.Balances e' l' i' := by
    obtain ⟨_, checked, _⟩ := bind_eq_ok ran
    have kept : Value.null.IsKept := rfl
    exact insertRow_balances balanced tame mem
      (fun ofLinks => isLink_assigned ofLinks kept checked) ran
  unfold runInsert at ran
  dsimp only at ran
  split at ran
  · exact inserted ran
  · split at ran
    · exact inserted ran
    · cases ran

theorem updatedRow_eq {layout : TableLayout} (updated : updatedRow layout assignments r = .ok new) :
    ∃ key, new = ⟨key, assignedCells layout assignments fun i => r.valueAt (.cell i)⟩ ∧
      (assignedValue? layout assignments .key = none → key = r.key) := by
  unfold updatedRow at updated
  dsimp only at updated
  split at updated
  · cases updated
    exact ⟨_, rfl, fun _ => rfl⟩
  · rename_i v assigned
    cases named : v.toKey? with
    | none =>
      rw [named] at updated
      cases updated
    | some key =>
      rw [named] at updated
      cases updated
      exact ⟨key, rfl, fun none => absurd (assigned.symm.trans none) (by simp)⟩

/-- What is not assigned is kept, and what is assigned to a link may stand there. -/
theorem updatedRow_balances (balanced : w.Balances e l i)
    (tame : t.layout ≠ linksLayout → l.IsTame) (mem : t ∈ w.tables) (present : r ∈ t.rows)
    (updated : updatedRow t.layout assignments r = .ok new)
    (replaced : replaceRow true (fun place => (assignedValue? t.layout assignments place).isSome)
      w t r new = .ok w') :
    ∃ e' l' i', w'.Balances e' l' i' ∧ (t.layout ≠ linksLayout → l' = l) := by
  obtain ⟨key, rfl, sameKey⟩ := updatedRow_eq updated
  obtain ⟨_, checked, _⟩ := bind_eq_ok replaced
  refine replaceRow_balances balanced tame mem present ?link ?key ?target replaced
  case link =>
    intro ofLinks
    have old : r.IsLink := balanced.stored.kept r (balanced.stored.links mem ofLinks ▸ present)
    exact isLink_assigned (t := t.erase r.key) ofLinks old.kept checked
  case key => exact fun unassigned => sameKey (by simpa using unassigned)
  case target =>
    intro ofLinks unassigned
    rw [ofLinks] at unassigned ⊢
    have none : assignedValue? linksLayout assignments (.cell 0) = none := by
      simpa using unassigned
    rw [target_assigned, none]
    rfl

theorem table?_replaceRow {assigned : ColumnPlace → Bool} (found : w.tables.table? name = some t)
    (replaced : replaceRow true assigned w t old new = .ok w') :
    w'.tables.table? name = some ((t.erase old.key).insert new) := by
  obtain ⟨_, _, done⟩ := bind_eq_ok replaced
  cases Except.ok.inj done
  exact Tables.table?_put (Tables.table?_put found rfl) rfl

/-- Row after row is replaced; those that are still to come remain in the table. -/
theorem runUpdate_balances (balanced : w.Balances e l i)
    (tame : ∀ t, w.tables.table? name = some t → t.layout ≠ linksLayout → l.IsTame)
    (selected : ∀ t, w.tables.table? name = some t → rows ⊆ t.rows)
    (distinct : (rows.map Row.key).Nodup)
    (ran : runUpdate true name assignments w rows = .ok w') :
    ∃ e' l' i', w'.Balances e' l' i' := by
  induction rows generalizing w e l i with
  | nil =>
    cases ran
    exact ⟨e, l, i, balanced⟩
  | cons r rest ih =>
    rw [runUpdate] at ran
    split at ran
    · cases ran
    · rename_i t found
      obtain ⟨new, updated, ran₁⟩ := bind_eq_ok ran
      obtain ⟨w₁, replaced, ran₂⟩ := bind_eq_ok ran₁
      obtain ⟨here, others⟩ := List.nodup_cons.mp distinct
      obtain ⟨present, remain⟩ := List.cons_subset.mp (selected t found)
      have mem := Tables.mem_of_table? found
      obtain ⟨e₁, l₁, i₁, balanced₁, same⟩ :=
        updatedRow_balances balanced (tame t found) mem present updated replaced
      have after := table?_replaceRow found replaced
      refine ih balanced₁ ?_ ?_ others ran₂
      · intro u found₁ other
        cases Option.some.inj (after.symm.trans found₁)
        rw [same other]
        exact tame t found other
      · intro u found₁ q hq
        cases Option.some.inj (after.symm.trans found₁)
        have apart : q.key ≠ r.key := fun equal => here (equal ▸ List.mem_map_of_mem hq)
        refine Table.mem_insert.mpr (.inr ?_)
        exact List.mem_filter.mpr ⟨remain hq, bne_iff_ne.mpr apart⟩

theorem runDelete_balances (balanced : w.Balances e l i) (tame : l.IsTame)
    (selected : ∀ t, w.tables.table? name = some t → rows ⊆ t.rows)
    (distinct : (rows.map Row.key).Nodup) :
    ∃ e' l' i', (runDelete true name w rows).Balances e' l' i' := by
  induction rows generalizing w e l i with
  | nil => exact ⟨e, l, i, balanced⟩
  | cons r rest ih =>
    rw [runDelete]
    split
    · exact ⟨e, l, i, balanced⟩
    · rename_i t found
      obtain ⟨here, others⟩ := List.nodup_cons.mp distinct
      obtain ⟨present, remain⟩ := List.cons_subset.mp (selected t found)
      obtain ⟨e₁, l₁, i₁, balanced₁, fewer⟩ :=
        deleteRow_balances balanced tame (Tables.mem_of_table? found) present
      have after : (deleteRow true w t r).tables.table? name = some (t.erase r.key) :=
        Tables.table?_put found rfl
      refine ih balanced₁ (fun q hq => tame q (fewer hq)) ?_ others
      intro u found₁ q hq
      cases Option.some.inj (after.symm.trans found₁)
      have apart : q.key ≠ r.key := fun equal => here (equal ▸ List.mem_map_of_mem hq)
      exact List.mem_filter.mpr ⟨remain hq, bne_iff_ne.mpr apart⟩

def IsBalanced (w : Work) : Prop := ∃ e l i, w.Balances e l i

/-- As long as no link is astray, the balance stays the number of open links. -/
theorem IsBalanced.changes (balanced : w.IsBalanced) (tame : w.tables.IsTame)
    (changes : w.Changes true w') : w'.IsBalanced := by
  obtain ⟨e, l, i, balanced⟩ := balanced
  have tame := balanced.stored.tame tame
  have keyed := balanced.stored.keyed
  -- rows are changed in the table of that name, which is the table they were selected from
  have only {t u : Table} (mem : t ∈ w.tables) (found : w.tables.table? t.layout.name = some u) :
      u = t := Option.some.inj (found.symm.trans (balanced.stored.table?_self mem))
  cases changes with
  | insert mem ran => exact runInsert_balances balanced tame mem ran
  | @update t _ _ mem parameters filter ran =>
    refine runUpdate_balances balanced (fun _ _ _ => tame) (fun u found => ?_) ?_ ran
    · rw [only mem found]
      exact Table.selected_rows_subset false filter
    · exact Table.selected_rows_nodup (keyed t mem) false filter
  | @delete t mem parameters filter =>
    refine runDelete_balances balanced tame (fun u found => ?_) ?_
    · rw [only mem found]
      exact Table.selected_rows_subset false filter
    · exact Table.selected_rows_nodup (keyed t mem) false filter

/-- Nothing is open where the balance is not above zero. -/
theorem IsBalanced.closed {count : Int} {ts : Tables} (balanced : IsBalanced ⟨ts, count⟩)
    (none : count ≤ 0) : IsBalanced ⟨ts, 0⟩ := by
  obtain ⟨e, l, i, stored, balance⟩ := balanced
  have zero : count = 0 := by
    have counted : count = openLinks e l.rows := balance
    omega
  rw [zero] at balance
  exact ⟨e, l, i, stored, balance⟩

end Work

end RecordStore
