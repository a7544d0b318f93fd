import RecordStore.Opening
import RecordStore.Proofs.Entry.Rows
import RecordStore.Proofs.Predicate.Answers

/-!
The two filter modes. Literals as placeholders and literals as text select the same rows,
wherever the text of each literal can be read back as the literal.
-/
namespace RecordStore

open Sql

theorem Filter.ofComparison_mode (columns : List Column) (m n : FilterMode) (k : Comparison) :
    (ofComparison columns m k).map (fun _ => ()) = (ofComparison columns n k).map fun _ => () := by
  unfold ofComparison
  cases k.check columns with
  | error e => rfl
  | ok column =>
    simp only [ok_bind]
    split
    · rfl
    · split <;> rfl

theorem Filter.ofPredicate_mode (columns : List Column) (m n : FilterMode) (p : Predicate) :
    (ofPredicate columns m p).map (fun _ => ()) = (ofPredicate columns n p).map fun _ => () := by
  induction p with
  | compare k => exact ofComparison_mode columns m n k
  | and l r left right | or l r left right =>
    simp only [ofPredicate]
    cases hl : ofPredicate columns m l <;> cases hl' : ofPredicate columns n l <;>
      simp only [hl, hl', Except.map, reduceCtorEq, Except.error.injEq] at left
    · rw [left]
      rfl
    · cases hr : ofPredicate columns m r <;> cases hr' : ofPredicate columns n r <;>
        simp only [hr, hr', Except.map, reduceCtorEq, Except.error.injEq] at right
      · rw [right]
        rfl
      · rfl

theorem Filter.ofPredicate_error {columns : List Column} {m : FilterMode} {p : Predicate}
    {e : PredicateError} (refused : ofPredicate columns m p = .error e) (n : FilterMode) :
    ofPredicate columns n p = .error e := by
  have modes := ofPredicate_mode columns m n p
  rw [refused] at modes
  cases h : ofPredicate columns n p with
  | ok g =>
    rw [h] at modes
    cases modes
  | error e' =>
    rw [h] at modes
    cases modes
    rfl

theorem Filter.parameters_inline {columns : List Column} {p : Predicate} {f : Filter}
    (compiled : ofPredicate columns .inline p = .ok f) : f.parameters = [] := by
  induction p generalizing f with
  | compare k =>
    obtain ⟨column, _, _, shape⟩ := ofComparison_ok compiled
    rcases shape with ⟨_, _, rfl⟩ | ⟨_, _, rfl⟩ | ⟨_, _, rfl⟩ <;> rfl
  | and l r left right =>
    obtain ⟨g, hg, compiled⟩ := bind_eq_ok compiled
    obtain ⟨i, hi, compiled⟩ := bind_eq_ok compiled
    cases Except.ok.inj compiled
    simp [joined, underAnd_parameters, left hg, right hi]
  | or l r left right =>
    obtain ⟨g, hg, compiled⟩ := bind_eq_ok compiled
    obtain ⟨i, hi, compiled⟩ := bind_eq_ok compiled
    cases Except.ok.inj compiled
    simp [joined, left hg, right hi]

namespace UnitOfWork

def tableFor (u : UnitOfWork) (w : World) (height : Nat) (name : String) :
    Option (Except Failure Table) :=
  u.openConnection?.map fun id => w.store.tableFor id height name

end UnitOfWork

/-- Two units, each in its world, that see the same contents of a table, behind the same
locks. -/
structure SameView (name : String) (u : UnitOfWork) (w : World) (v : UnitOfWork) (w' : World) :
    Prop where
  state : u.state = v.state
  table : u.table? w name = v.table? w' name
  reading : ∀ height, u.tableFor w height name = v.tableFor w' height name

/-- What a predicate and a table have to keep for both modes to mean the same. -/
structure ModesAgree (d : Descriptor) (p : Predicate) (u : UnitOfWork) (w : World) : Prop where
  table_free : isKeyword d.table = false
  columns_free : ∀ c ∈ d.columns, isReserved c.name = false
  placed : ∀ t, u.table? w d.table = some t → t.layout.HasColumns d.columns
  distinct : ∀ t, u.table? w d.table = some t → (t.rows.map Row.key).Nodup
  spares : ∀ t, u.table? w d.table = some t → p.SparesLeastKey d.columns t
  clean : ∀ k ∈ p.comparisons, ∀ s, k.value = .text s → Clean s
  reads : ∀ k ∈ p.comparisons, ∀ x, k.value = .real x → x.isFinite = true → x.ReadsBack
  few : ∀ f, Filter.compile (some p) d .bound = .ok f → f.parameters.length ≤ maxParameters

theorem ModesAgree.selectable {d : Descriptor} {p : Predicate} {u : UnitOfWork} {w : World}
    (agree : ModesAgree d p u w) (mode : FilterMode) : Selectable mode d p u w where
  table_free := agree.table_free
  columns_free := agree.columns_free
  placed := agree.placed
  distinct := agree.distinct
  spares := agree.spares
  readable := fun _ => agree.clean
  reads := fun _ => agree.reads
  few := by
    intro f compiled
    cases mode with
    | bound => exact agree.few f compiled
    | inline =>
      rw [Filter.parameters_inline compiled]
      exact Nat.zero_le _

namespace Repository

variable {α : Type} {r : RecordType α} {d : Descriptor} {p : Predicate} {u v : UnitOfWork}
  {w w' : World}

/-- The same rows up to their order, or the same error. Of several selected rows that cannot be
read one is reported, and in each mode it may be another one. -/
inductive SameAnswer (unreadable : StoreError → Prop) :
    Except RepositoryError (List α) → Except RepositoryError (List α) → Prop
  | rows {xs ys : List α} : xs.Perm ys → SameAnswer unreadable (.ok xs) (.ok ys)
  | error (e : RepositoryError) : SameAnswer unreadable (.error e) (.error e)
  | unreadable {entity : String} {e e' : StoreError} : unreadable e → unreadable e' →
      SameAnswer unreadable (.error (.execution ⟨.getAll, entity, e⟩))
        (.error (.execution ⟨.getAll, entity, e'⟩))

/-- The error of reading one of the rows that the predicate selects. -/
def IsUnreadable (r : RecordType α) (p : Predicate) (u : UnitOfWork) (w : World)
    (e : StoreError) : Prop :=
  ∃ d t row, r.declaration.describe = .ok d ∧ u.table? w d.table = some t ∧ row ∈ t.rows ∧
    p.truthOn d.columns t.layout row = some true ∧
    r.ofRow ⟨t.layout.columnNames, row.values⟩ = .error e

theorem sameAnswer_of_perm {entity : String} {unreadable : StoreError → Prop}
    {xs ys : List ResultRow} (perm : xs.Perm ys)
    (why : ∀ x ∈ xs, ∀ e, r.ofRow x = .error e → unreadable e) :
    SameAnswer unreadable
      ((xs.mapM r.ofRow).mapError fun e => .execution ⟨.getAll, entity, e⟩)
      ((ys.mapM r.ofRow).mapError fun e => .execution ⟨.getAll, entity, e⟩) := by
  cases first : xs.mapM r.ofRow with
  | ok as =>
    cases second : ys.mapM r.ofRow with
    | ok bs => exact .rows (mapM_perm perm first second)
    | error e => exact absurd second (not_ok_of_perm_error perm first)
  | error e =>
    cases second : ys.mapM r.ofRow with
    | ok bs => exact absurd first (not_ok_of_perm_error perm.symm second)
    | error e' =>
      obtain ⟨x, hx, failed⟩ := mapM_eq_error first
      obtain ⟨y, hy, failed'⟩ := mapM_eq_error second
      exact .unreadable (why x hx e failed) (why y (perm.mem_iff.mpr hy) e' failed')

/-- A unit that writes literals as placeholders and one that writes them as text answer
alike. -/
theorem getAll_bound_inline (bound : u.filterMode = .bound) (inline : v.filterMode = .inline)
    (same : ∀ d, r.declaration.describe = .ok d → SameView d.table u w v w')
    (agree : ∀ d, r.declaration.describe = .ok d → ModesAgree d p u w) :
    SameAnswer (IsUnreadable r p u w) (getAll r (some p) u w).answer
      (getAll r (some p) v w').answer := by
  cases accepted : r.declaration.describe with
  | error e =>
    rw [getAll_not_accepted accepted, getAll_not_accepted accepted]
    exact .error _
  | ok d =>
    have view := same d accepted
    have agree_u := agree d accepted
    have agree_v : ModesAgree d p v w' :=
      { agree_u with
        placed := view.table ▸ agree_u.placed
        distinct := view.table ▸ agree_u.distinct
        spares := view.table ▸ agree_u.spares }
    cases compiled : Filter.ofPredicate d.columns .bound p with
    | error e =>
      rw [getAll_not_compiled accepted (by rw [bound]; exact compiled),
        getAll_not_compiled accepted (by rw [inline]; exact Filter.ofPredicate_error compiled _)]
      exact .error _
    | ok f =>
      cases written : Filter.ofPredicate d.columns .inline p with
      | error e =>
        rw [Filter.ofPredicate_error written .bound] at compiled
        cases compiled
      | ok g =>
        have reading := view.reading p.leftNested.height
        unfold UnitOfWork.tableFor at reading
        cases opened : u.openConnection? with
        | none =>
          have closed : v.openConnection? = none := by
            rw [opened] at reading
            exact Option.map_eq_none_iff.mp reading.symm
          rw [getAll_closed accepted (by rw [bound]; exact compiled) opened,
            getAll_closed accepted (by rw [inline]; exact written) closed, view.state]
          exact .error _
        | some i =>
          obtain ⟨j, opened', table⟩ : ∃ j, v.openConnection? = some j ∧
              w'.store.tableFor j p.leftNested.height d.table
                = w.store.tableFor i p.leftNested.height d.table := by
            rw [opened] at reading
            exact Option.map_eq_some_iff.mp reading.symm
          obtain ⟨first, perm, answer⟩ :=
            getAll_rows bound accepted (agree_u.selectable _) opened compiled
          obtain ⟨second, perm', answer'⟩ :=
            getAll_rows inline accepted (agree_v.selectable _) opened' written
          rw [answer, answer', table]
          rw [table] at perm'
          cases found : w.store.tableFor i p.leftNested.height d.table with
          | error e => exact .error _
          | ok t =>
            refine sameAnswer_of_perm ((perm t found).trans (perm' t found).symm) ?_
            intro x hx e failed
            obtain ⟨row, mem, rfl⟩ := List.mem_map.mp ((perm t found).mem_iff.mp hx)
            obtain ⟨c, conn, seen⟩ := Store.tableFor_eq_ok found
            have sees : u.table? w d.table = some t := by
              simp [UnitOfWork.table?, opened, conn, seen]
            obtain ⟨stored, selected⟩ := List.mem_filter.mp mem
            exact ⟨d, t, row, accepted, sees, stored, eq_of_beq selected, failed⟩

def onEntries (mode : FilterMode) (rows : List Row) : UnitOfWork × World :=
  (⟨some 0, .ongoing, none, mode⟩,
    .ofStore ⟨[⟨none, [⟨entriesLayout, rows⟩]⟩], [],
      [(0, (Connection.fresh 0 true).locked .shared)], 1⟩)

theorem getAll_bound_inline_half :
    ∃ rows, rows = [⟨2, [.null, .text "2024-01-01"]⟩, ⟨3, [.text "a", .text "2024-01-02"]⟩] ∧
      SameAnswer
        (IsUnreadable entryRecord (.compareWith "ID" .gt (.real ⟨0x4004000000000000⟩))
          (onEntries .bound rows).1 (onEntries .bound rows).2)
        (getAll entryRecord (some (.compareWith "ID" .gt (.real ⟨0x4004000000000000⟩)))
          (onEntries .bound rows).1 (onEntries .bound rows).2).answer
        (getAll entryRecord (some (.compareWith "ID" .gt (.real ⟨0x4004000000000000⟩)))
          (onEntries .inline rows).1 (onEntries .inline rows).2).answer := by
  refine ⟨_, rfl, getAll_bound_inline rfl rfl ?_ ?_⟩
  · intro d _
    exact ⟨rfl, rfl, fun _ => rfl⟩
  · intro d accepted
    cases Except.ok.inj (Entry.describe_declaration.symm.trans accepted)
    have half : (⟨0x4004000000000000⟩ : Real64).ReadsBack := by
      unfold Real64.ReadsBack
      decide +kernel
    have compiled : Filter.compile
        (some (.compareWith "ID" .gt (.real ⟨0x4004000000000000⟩))) Entry.descriptor .bound
        = .ok ⟨"ID > ?", [.real ⟨0x4004000000000000⟩]⟩ := eq_ok_of_toOption (by decide +kernel)
    have table : UnitOfWork.table? (onEntries .bound
          [⟨2, [.null, .text "2024-01-01"]⟩, ⟨3, [.text "a", .text "2024-01-02"]⟩]).1
        (onEntries .bound
          [⟨2, [.null, .text "2024-01-01"]⟩, ⟨3, [.text "a", .text "2024-01-02"]⟩]).2 "ENTRIES"
        = some ⟨entriesLayout,
          [⟨2, [.null, .text "2024-01-01"]⟩, ⟨3, [.text "a", .text "2024-01-02"]⟩]⟩ := by
      decide +kernel
    exact
      { table_free := Entry.table_free
        columns_free := Entry.columns_free
        placed := by
          intro t seen
          cases Option.some.inj (table.symm.trans seen)
          exact Entry.hasColumns
        distinct := by
          intro t seen
          cases Option.some.inj (table.symm.trans seen)
          decide
        spares := by
          intro t _ k mem column x _ _ eq
          cases List.mem_singleton.mp mem
          cases eq
        clean := by
          intro k mem s text
          cases List.mem_singleton.mp mem
          cases text
        reads := by
          intro k mem x real _
          cases List.mem_singleton.mp mem
          cases real
          exact half
        few := by
          intro f hf
          cases Except.ok.inj (compiled.symm.trans hf)
          decide }

def answerOn (mode : FilterMode) (rows : List Row) (p : Predicate) :
    Except RepositoryError (List Entry) :=
  (getAll entryRecord (some p) (onEntries mode rows).1 (onEntries mode rows).2).answer

/-- The modes differ where a text does not carry its literal: the shortest text of 2^57 is
another integer, and SQL ends at a zero character. They differ too where the rows are found in
another way, for the least key and for what is reported of unreadable rows, and where an error
shows the statement. -/
theorem getAll_bound_inline_apart :
    ((answerOn .bound [⟨144115188075855872, [.null, .text "2024-01-01"]⟩]
        (.compareWith "ID" .eq (.real ⟨0x4380000000000000⟩))).toOption.map List.length = some 1 ∧
      (answerOn .inline [⟨144115188075855872, [.null, .text "2024-01-01"]⟩]
        (.compareWith "ID" .eq (.real ⟨0x4380000000000000⟩))).toOption = some []) ∧
    ((answerOn .bound [⟨1, [.text "\x00", .text "2024-01-01"]⟩]
        (.compareWith "DESCRIPTION" .eq (.text "\x00"))).toOption.map List.length = some 1 ∧
      (answerOn .inline [⟨1, [.text "\x00", .text "2024-01-01"]⟩]
        (.compareWith "DESCRIPTION" .eq (.text "\x00"))).toOption = none) ∧
    answerOn .bound [⟨5, [.null, .text "x"]⟩, ⟨6, [.null, .text "2024-99-01"]⟩]
        (.or (.compareWith "ID" .gt (.integer 5)) (.compareWith "ID" .eq (.integer 5)))
      ≠ answerOn .inline [⟨5, [.null, .text "x"]⟩, ⟨6, [.null, .text "2024-99-01"]⟩]
        (.or (.compareWith "ID" .gt (.integer 5)) (.compareWith "ID" .eq (.integer 5))) ∧
    ((answerOn .bound [⟨Int64.minValue, [.null, .text "2024-01-01"]⟩]
        (.or (.compareWith "ID" .gt (.real ⟨0xc3e0000000000000⟩))
          (.compareWith "ID" .eq (.real ⟨0xc3e0000000000000⟩)))).toOption = some [] ∧
      (answerOn .inline [⟨Int64.minValue, [.null, .text "2024-01-01"]⟩]
        (.or (.compareWith "ID" .gt (.real ⟨0xc3e0000000000000⟩))
          (.compareWith "ID" .eq (.real ⟨0xc3e0000000000000⟩)))).toOption.map List.length
        = some 1) ∧
    (getAll (.plain ⟨"Keyword", some "ORDER", [⟨"ID", .integer⟩]⟩)
        (some (.compareWith "ID" .eq (.integer 1))) (onEntries .bound []).1
        (onEntries .bound []).2).answer
      ≠ (getAll (.plain ⟨"Keyword", some "ORDER", [⟨"ID", .integer⟩]⟩)
        (some (.compareWith "ID" .eq (.integer 1))) (onEntries .inline []).1
        (onEntries .inline []).2).answer := by
  refine ⟨⟨?_, ?_⟩, ⟨?_, ?_⟩, ?_, ⟨?_, ?_⟩, ?_⟩ <;> decide +kernel

end Repository

end RecordStore
