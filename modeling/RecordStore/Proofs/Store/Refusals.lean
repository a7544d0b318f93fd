import RecordStore.Proofs.Sql.FirstWord
import RecordStore.Proofs.Store.Named

/-!
What a change of rows does to everything but the rows, and what it can fail with.
-/
namespace RecordStore

open Sql

/-- What a change of rows can fail with, locks apart. -/
inductive TableLayout.Refuses (l : TableLayout) : Failure → Prop
  | key : l.Refuses .keyMismatch
  | missing {cell : CellLayout} : cell ∈ l.cells → cell.required = true →
      l.Refuses (.missingValue l.name cell.name)
  | duplicate : l.Refuses (.duplicateKey l.name l.key)
  | dangling : l.Refuses .danglingReference

namespace TableLayout.Refuses

variable {l : TableLayout} {f f' : Failure}

/-- One code tells all, but for the column that has no value. -/
theorem eq_or_missing (first : l.Refuses f) (second : l.Refuses f') (code : f.code = f'.code) :
    f = f' ∨ ∃ a b, f = .missingValue l.name a ∧ f' = .missingValue l.name b := by
  cases first with
  | missing mem required =>
    cases second with
    | missing mem' required' => exact .inr ⟨_, _, rfl, rfl⟩
    | key | duplicate | dangling => cases code
  | key | duplicate | dangling =>
    cases second with
    | key | missing | duplicate | dangling => first | exact .inl rfl | cases code

end TableLayout.Refuses

namespace Work

variable {w w' : Work} {t : Table} {r old new : Row} {enforced : Bool} {name : String}

theorem refuses_checkRow (t : Table) (r : Row) : FailsOnly t.layout.Refuses (checkRow t r) := by
  unfold checkRow
  cases missing : missingCell? t.layout r with
  | some cell =>
    obtain ⟨⟨same, v⟩, found, rfl⟩ := Option.map_eq_some_iff.mp missing
    obtain ⟨mem, _⟩ := List.of_mem_zip (List.mem_of_find?_eq_some found)
    have required := List.find?_some found
    simp only [Bool.and_eq_true] at required
    exact .error (.missing mem required.1)
  | none =>
    dsimp only
    split
    · exact .error .duplicate
    · exact .ok ()

theorem refuses_insertRow (w : Work) (t : Table) (r : Row) :
    FailsOnly t.layout.Refuses (insertRow enforced w t r) :=
  (refuses_checkRow t r).bind fun _ => .ok _

theorem refuses_runInsert (w : Work) (t : Table) (assignments : List (ColumnName × Value)) :
    FailsOnly t.layout.Refuses (runInsert enforced w t assignments) := by
  unfold runInsert
  dsimp only
  split
  · exact refuses_insertRow w t _
  · split
    · exact refuses_insertRow w t _
    · exact .error .key

theorem refuses_updatedRow (l : TableLayout) (assignments : List (ColumnName × Value)) (r : Row) :
    FailsOnly l.Refuses (updatedRow l assignments r) := by
  unfold updatedRow
  dsimp only
  split
  · exact .ok _
  · split
    · exact .ok _
    · exact .error .key

theorem refuses_replaceRow {assigned : ColumnPlace → Bool} (w : Work) (t : Table) (old new : Row) :
    FailsOnly t.layout.Refuses (replaceRow enforced assigned w t old new) :=
  (refuses_checkRow (t.erase old.key) new).bind fun _ => .ok _

theorem emptied_insertRow (named : w.tables.AreNamed)
    (mem : t ∈ w.tables) (inserted : insertRow enforced w t r = .ok w') :
    w'.tables.emptied = w.tables.emptied := by
  obtain ⟨_, _, done⟩ := bind_eq_ok inserted
  cases Except.ok.inj done
  exact named.emptied_put mem rfl

theorem emptied_runInsert {assignments : List (ColumnName × Value)}
    (named : w.tables.AreNamed) (mem : t ∈ w.tables)
    (inserted : runInsert enforced w t assignments = .ok w') :
    w'.tables.emptied = w.tables.emptied := by
  unfold runInsert at inserted
  dsimp only at inserted
  split at inserted
  · exact emptied_insertRow named mem inserted
  · split at inserted
    · exact emptied_insertRow named mem inserted
    · cases inserted

theorem emptied_deleteRow (named : w.tables.AreNamed)
    (mem : t ∈ w.tables) (r : Row) :
    (deleteRow enforced w t r).tables.emptied = w.tables.emptied :=
  named.emptied_put mem rfl

theorem emptied_replaceRow {assigned : ColumnPlace → Bool}
    (named : w.tables.AreNamed) (mem : t ∈ w.tables)
    (replaced : replaceRow enforced assigned w t old new = .ok w') :
    w'.tables.emptied = w.tables.emptied := by
  obtain ⟨_, _, done⟩ := bind_eq_ok replaced
  cases Except.ok.inj done
  have again : (w.tables.put (t.erase old.key)).put ((t.erase old.key).insert new)
      = w.tables.put ((t.erase old.key).insert new) := Tables.put_put w.tables rfl
  dsimp only
  rw [again]
  exact named.emptied_put mem rfl

/-- Every row finds the table that the first one has found. -/
theorem runUpdate_keeps {assignments : List (ColumnName × Value)} {rows : List Row}
    (named : w.tables.AreNamed) (found : w.tables.table? name = some t) :
    FailsOnly t.layout.Refuses (runUpdate enforced name assignments w rows) ∧
      ∀ w', runUpdate enforced name assignments w rows = .ok w' →
        w'.tables.emptied = w.tables.emptied := by
  induction rows generalizing w t with
  | nil =>
    refine ⟨.ok w, fun w' ran => ?_⟩
    cases ran
    rfl
  | cons r rest ih =>
    have mem := Tables.mem_of_table? found
    have next : ∀ w₁, w₁.tables.emptied = w.tables.emptied →
        FailsOnly t.layout.Refuses (runUpdate enforced name assignments w₁ rest) ∧
          ∀ w', runUpdate enforced name assignments w₁ rest = .ok w' →
            w'.tables.emptied = w.tables.emptied := by
      intro w₁ same
      obtain ⟨t₁, found₁, layout⟩ := Tables.table?_of_emptied same found
      rw [← layout, ← same]
      exact ih (named.of_emptied same) found₁
    rw [runUpdate, found]
    dsimp only
    constructor
    · refine (refuses_updatedRow ..).bind fun new => ?_
      refine (refuses_replaceRow w t r new).bind_of_ok fun w₁ replaced => ?_
      exact (next w₁ (emptied_replaceRow named mem replaced)).1
    · intro w' ran
      obtain ⟨new, _, ran⟩ := bind_eq_ok ran
      obtain ⟨w₁, replaced, ran⟩ := bind_eq_ok ran
      exact (next w₁ (emptied_replaceRow named mem replaced)).2 w' ran

theorem emptied_runDelete {rows : List Row} (named : w.tables.AreNamed) :
    (runDelete enforced name w rows).tables.emptied = w.tables.emptied := by
  induction rows generalizing w with
  | nil => rfl
  | cons r rest ih =>
    rw [runDelete]
    split
    · rfl
    · rename_i t found
      have same : (deleteRow enforced w t r).tables.emptied = w.tables.emptied :=
        emptied_deleteRow named (Tables.mem_of_table? found) r
      exact (ih (named.of_emptied same)).trans same

end Work

namespace Sql.Command

/-- Only an update keeps a journal of its own. -/
def isJournaled (enforced : Bool) (tables : Tables) (t : TableLayout) : Command → Bool
  | .update _ assignments filter =>
    Work.isJournaled enforced tables t (assignments.map Prod.fst) filter
  | _ => false

theorem isJournaled_emptied (enforced : Bool) (tables : Tables) (t : TableLayout)
    (command : Command) :
    command.isJournaled enforced tables.emptied t = command.isJournaled enforced tables t := by
  have refers (parent : String) :
      Work.isReferred tables.emptied parent = Work.isReferred tables parent := by
    rw [Work.isReferred, Work.isReferred, Tables.emptied, List.any_map]
    rfl
  cases command with
  | update => simp only [isJournaled, Work.isJournaled, refers]
  | _ => rfl

end Sql.Command

namespace Store

variable {s : Store} {id : Nat} {c : Connection} {l : TableLayout}

/-- The store after a change that is kept, or is given up halfway. Outside a transaction only
the first leaves a trace. -/
def written (s : Store) (id : Nat) (c : Connection) (done : Bool) : Store :=
  if c.inTransaction then
    s.putConnection id { c.locked .reserved with work := some (s.visible c) }
  else if done then (s.putTables c.file (s.visible c)).putConnection id c
  else s.putConnection id c

/-- The store after a change that the medium does not take: it is given up alone, or with the
transaction. -/
def refused (s : Store) (id : Nat) (c : Connection) (alone : Bool) : Store :=
  if alone then s.written id c false
  else if c.inTransaction then s.putConnection id c.released
  else s.putConnection id c

/-- How a change of rows can end: it waits for another writer, it is done, it fails, or the medium
does not take it. -/
inductive Changes (s : Store) (id : Nat) (c : Connection) (l : TableLayout) (journaled : Bool) :
    Except Failure Reply × Store → Prop
  | locked {r : Store} : r.emptied = s.emptied.putConnection id c.emptied →
      Changes s id c l journaled (.error .locked, r)
  | done {r : Store} (count : Nat) : r.emptied = s.emptied.written id c.emptied true →
      Changes s id c l journaled (.ok (.done count), r)
  | failed {r : Store} {f : Failure} : l.Refuses f →
      r.emptied = s.emptied.written id c.emptied false → Changes s id c l journaled (.error f, r)
  | refused {r : Store} (e : MediumError) :
      r.emptied = s.emptied.refused id c.emptied (journaled && e == .full) →
      Changes s id c l journaled (.error (.medium e), r)

theorem written_emptied_open (transaction : c.inTransaction = true) (done : Bool) :
    s.emptied.written id c.emptied done = s.emptied.putConnection id
      { (c.locked .reserved).emptied with work := some (s.visible c).emptied } := by
  rw [written, Connection.emptied_inTransaction, if_pos transaction, visible_emptied,
    Connection.emptied_locked]

theorem written_emptied_kept (transaction : ¬ c.inTransaction = true) :
    s.emptied.written id c.emptied true
      = (s.emptied.putTables c.file (s.visible c).emptied).putConnection id c.emptied := by
  rw [written, Connection.emptied_inTransaction, if_neg transaction, if_pos rfl, visible_emptied,
    Connection.emptied_file]

theorem written_emptied_dropped (transaction : ¬ c.inTransaction = true) :
    s.emptied.written id c.emptied false = s.emptied.putConnection id c.emptied := by
  rw [written, Connection.emptied_inTransaction, if_neg transaction, if_neg (by decide)]

theorem refused_emptied_dropped (transaction : ¬ c.inTransaction = true) (alone : Bool) :
    s.emptied.refused id c.emptied alone = s.emptied.putConnection id c.emptied := by
  rw [refused, written_emptied_dropped transaction, Connection.emptied_inTransaction,
    if_neg transaction, ite_self]

theorem emptied_undo (s : Store) (id : Nat) (c : Connection) (cause : Failure) :
    (s.undo id c cause).2.emptied = s.emptied.written id c.emptied false := by
  dsimp only [undo]
  rw [emptied_putConnection]
  by_cases transaction : c.inTransaction = true
  · rw [written_emptied_open transaction,
      if_pos ((c.locked_inTransaction .reserved).trans transaction)]
    rfl
  · have unlocked : c.locked .reserved = c := if_neg transaction
    rw [written_emptied_dropped transaction, unlocked, if_neg transaction]
    rfl

theorem emptied_setBack (s : Store) (id : Nat) (c : Connection) (e : MediumError) :
    (s.setBack id c e).2.emptied = s.emptied.refused id c.emptied false := by
  dsimp only [setBack]
  rw [emptied_putConnection]
  by_cases transaction : c.inTransaction = true
  · rw [refused, Connection.emptied_inTransaction, if_pos transaction, if_pos transaction]
    rfl
  · rw [refused_emptied_dropped transaction, if_neg transaction]
    rfl

variable {journaled : Bool} {w : Work}

theorem changes_complete (same : w.tables.emptied = (s.visible c).emptied) (count : Nat) :
    Changes s id c l journaled (s.complete id c w count) := by
  unfold complete
  split
  · rename_i transaction
    refine .done count ?_
    rw [emptied_putConnection, written_emptied_open transaction, ← same]
    rfl
  rename_i transaction
  split
  · refine .failed .dangling ?_
    rw [emptied_putConnection, written_emptied_dropped transaction]
    rfl
  split
  · exact .locked (emptied_putConnection ..)
  split
  · rename_i e _
    refine .refused (r := (s.setBack id c e).2) e ?_
    rw [emptied_setBack, refused_emptied_dropped transaction, refused_emptied_dropped transaction]
  · refine .done count ?_
    rw [emptied_putConnection, emptied_putTables, written_emptied_kept transaction, same]
    rfl

theorem changes_write {change : Work → Except Failure (Work × Nat)}
    (fails : FailsOnly l.Refuses (change ⟨s.visible c, c.openReferences⟩))
    (keeps : ∀ w count, change ⟨s.visible c, c.openReferences⟩ = .ok (w, count) →
      w.tables.emptied = (s.visible c).emptied) :
    Changes s id c l journaled (s.write id c journaled change) := by
  unfold write
  split
  · exact .locked (emptied_putConnection ..)
  split
  · rename_i f failed
    exact .failed (fails.of_error f failed) (s.emptied_undo id c f)
  · rename_i w count changed
    split
    · rename_i e _
      cases alone : journaled && e == .full with
      | true =>
        rw [if_pos rfl]
        refine .refused (r := (s.undo id c (.medium e)).2) e ?_
        rw [emptied_undo, alone, Store.refused, if_pos rfl]
      | false =>
        rw [if_neg (by decide)]
        refine .refused (r := (s.setBack id c e).2) e ?_
        rw [emptied_setBack, alone]
    · exact changes_complete (keeps w count changed) count

/-! ## Commands about rows -/

variable {sql : String} {command : Command} {parameters : List Value} {name : String} {t : Table}

theorem changes_step (named : (s.visible c).AreNamed) (changes : command.changesRows = true)
    (table : command.table? = some name) (found : (s.visible c).table? name = some t)
    (parameters : List Value) :
    Changes s id c t.layout (command.isJournaled c.enforced (s.visible c) t.layout)
      (s.step id c command parameters) := by
  have mem := Tables.mem_of_table? found
  have self := Tables.table?_self found
  cases command with
  | select | begin | commit | rollback | limitPages | nothing => cases changes
  | insert target columns values =>
    cases Option.some.inj table
    simp only [step, found]
    apply changes_write
    · exact (Work.refuses_runInsert _ t _).bind fun _ => .ok _
    · intro w count ran
      obtain ⟨w', inserted, done⟩ := bind_eq_ok ran
      cases Except.ok.inj done
      exact Work.emptied_runInsert (w := ⟨s.visible c, c.openReferences⟩) named mem inserted
  | update target assignments filter =>
    cases Option.some.inj table
    simp only [step, found]
    apply changes_write
    · exact (Work.runUpdate_keeps (w := ⟨s.visible c, c.openReferences⟩) named self).1.bind
        fun _ => .ok _
    · intro w count ran
      obtain ⟨w', updated, done⟩ := bind_eq_ok ran
      cases Except.ok.inj done
      exact (Work.runUpdate_keeps (w := ⟨s.visible c, c.openReferences⟩) named self).2 _ updated
  | delete target filter =>
    cases Option.some.inj table
    simp only [step, found]
    apply changes_write
    · exact .ok _
    · intro w count ran
      cases Except.ok.inj ran
      exact Work.emptied_runDelete (w := ⟨s.visible c, c.openReferences⟩) named

end Store

end RecordStore
