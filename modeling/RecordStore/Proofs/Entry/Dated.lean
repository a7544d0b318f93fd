import RecordStore.Proofs.Calendar.Order
import RecordStore.Proofs.Entry.Changed
import RecordStore.Proofs.Predicate.Modes

/-!
Entries compared by their dates. Evaluator and store compare the written dates, so both follow
the calendar, except from one year before the year 0 to another.
-/
namespace RecordStore

open Sql

namespace Entry

def dated (op : CompareOp) (d : Date) : Predicate := .compareWith "DATE" op (.date d)

theorem column?_date : Schema.column? descriptor.columns "DATE" = some ⟨"DATE", .date⟩ := by
  decide

theorem check_dated (op : CompareOp) (d : Date) :
    (⟨"DATE", op, .date d⟩ : Comparison).check descriptor.columns = .ok ⟨"DATE", .date⟩ := by
  simp only [Comparison.check, column?_date]
  rfl

theorem holds_dated (e : Entry) (op : CompareOp) (d : Date) :
    (dated op d).holds descriptor.columns e.values
      = .ok (op.accepts (e.date.compareWritten d)) := by
  have place : Schema.position? descriptor.columns "DATE" = some 2 := by decide
  have value : valueIn descriptor.columns e.values "DATE" = .text e.date.text := by
    rw [valueIn, place]
    rfl
  rw [dated, Predicate.compareWith, Predicate.holds, Comparison.holds, check_dated, ok_bind,
    value, ← Date.compareText_text]
  rfl

theorem truthOn_dated {r : Row} {e : Date} (written : r.valueAt (.cell 1) = .text e.text)
    (op : CompareOp) (d : Date) :
    (dated op d).truthOn descriptor.columns entriesLayout r
      = some (op.accepts (e.compareWritten d)) := by
  rw [dated, Predicate.compareWith, Predicate.truthOn, Comparison.truthOn]
  simp only [column?_date, Option.bind_eq_bind, Option.bind_some, place_date, written]
  rw [← Date.compareText_text]
  rfl

theorem compile_dated (op : CompareOp) (d : Date) (mode : FilterMode) :
    ∃ f, Filter.compile (some (dated op d)) descriptor mode = .ok f := by
  rw [Filter.compile, dated, Predicate.compareWith, Filter.ofPredicate, Filter.ofComparison,
    check_dated, ok_bind]
  exact ⟨_, rfl⟩

end Entry

namespace Repository

variable {u : UnitOfWork} {w : World} {t : Table}

/-- A date is compared as it is written, by the evaluator and by the store in either mode. -/
theorem getAll_dated (op : CompareOp) (d : Date)
    (reads : u.tableFor w (Entry.dated op d).height "ENTRIES" = some (.ok t))
    (layout : t.layout = entriesLayout) (distinct : (t.rows.map Row.key).Nodup) :
    (∀ e : Entry, (Entry.dated op d).holds Entry.descriptor.columns e.values
      = .ok (op.accepts (e.date.compareWritten d))) ∧
    (∀ found, (getAll entryRecord (some (Entry.dated op d)) u w).answer = .ok found →
      ∀ r ∈ t.rows, ∀ e : Date, r.valueAt (.cell 1) = .text e.text →
        (r.key ∈ found.map Entry.id ↔ op.accepts (e.compareWritten d) = true)) ∧
    ((∀ r ∈ t.rows, ∃ e, Entry.ofRow ⟨t.layout.columnNames, r.values⟩ = .ok e) →
      ∃ found, (getAll entryRecord (some (Entry.dated op d)) u w).answer = .ok found) := by
  obtain ⟨n, opened, table⟩ := Option.map_eq_some_iff.mp reads
  obtain ⟨c, conn, sees⟩ := Store.tableFor_eq_ok table
  have seen : u.table? w "ENTRIES" = some t := by
    simp [UnitOfWork.table?, opened, conn, sees]
  obtain ⟨f, compiled⟩ := Entry.compile_dated op d u.filterMode
  have selectable : Selectable u.filterMode Entry.descriptor (Entry.dated op d) u w :=
    selectable_comparison u.filterMode (by rintro x ⟨⟩) (by rintro s ⟨⟩) seen layout distinct
  obtain ⟨rows, perm, answer⟩ := getAll_selected opened table layout selectable compiled
  refine ⟨fun e => e.holds_dated op d, ?_, ?_⟩
  · intro found answered r hr e written
    rw [answer, mapError_eq_ok] at answered
    obtain ⟨shown, read, same⟩ := mapM_ok_of_perm perm answered
    rw [(same.map Entry.id).mem_iff, Entry.ids_of_rows read]
    have truth := Entry.truthOn_dated written op d
    constructor
    · intro mem
      obtain ⟨q, chosen, same⟩ := List.mem_map.mp mem
      obtain ⟨hq, holds⟩ := List.mem_filter.mp chosen
      cases List.inj_on_of_nodup_map distinct hq hr same
      simpa [truth] using holds
    · intro accepts
      exact List.mem_map_of_mem (List.mem_filter.mpr ⟨hr, by simp [truth, accepts]⟩)
  · intro decodable
    rw [answer]
    cases read : rows.mapM Entry.ofRow with
    | ok found => exact ⟨found, rfl⟩
    | error e =>
      obtain ⟨x, hx, failed⟩ := mapM_eq_error read
      obtain ⟨r, chosen, rfl⟩ := List.mem_map.mp (perm.mem_iff.mp hx)
      obtain ⟨m, ok⟩ := decodable r (List.mem_filter.mp chosen).1
      rw [layout, failed] at ok
      cases ok

theorem getAll_dated_leap_day :
    ∃ rows found, rows = [⟨2, [.null, .text "2024-02-29"]⟩, ⟨3, [.null, .text "-0044-03-15"]⟩] ∧
      (getAll entryRecord (some (Entry.dated .lt ⟨2024, 3, 1, by decide, by decide⟩))
        (onEntries .inline rows).1 (onEntries .inline rows).2).answer = .ok found ∧
      2 ∈ found.map Entry.id ∧ 3 ∈ found.map Entry.id := by
  obtain ⟨rows, shape, reads, distinct, decodes, leap, ides⟩ :
      ∃ rows, rows = [⟨2, [.null, .text "2024-02-29"]⟩, ⟨3, [.null, .text "-0044-03-15"]⟩] ∧
        (onEntries .inline rows).1.tableFor (onEntries .inline rows).2 2 "ENTRIES"
          = some (.ok ⟨entriesLayout, rows⟩) ∧ (rows.map Row.key).Nodup ∧
        (∀ r ∈ rows, (Entry.ofRow ⟨entriesLayout.columnNames, r.values⟩).toOption.isSome) ∧
        ⟨2, [.null, .text "2024-02-29"]⟩ ∈ rows ∧ ⟨3, [.null, .text "-0044-03-15"]⟩ ∈ rows :=
    ⟨_, rfl, rfl, by decide, by decide, by decide, by decide⟩
  obtain ⟨_, selects, answers⟩ := getAll_dated .lt ⟨2024, 3, 1, by decide, by decide⟩ reads rfl
    distinct
  obtain ⟨found, answered⟩ := answers fun r hr => by
    obtain ⟨e, read⟩ := Option.isSome_iff_exists.mp (decodes r hr)
    exact ⟨e, eq_ok_of_toOption read⟩
  exact ⟨rows, found, shape, answered,
    (selects found answered _ leap ⟨2024, 2, 29, by decide, by decide⟩ (by decide)).mpr (by decide),
    (selects found answered _ ides ⟨-44, 3, 15, by decide, by decide⟩ (by decide)).mpr
      (by decide)⟩

/-- From one year before the year 0 to another the written dates go backwards. -/
theorem getAll_dated_apart :
    (⟨-45, 1, 1, by decide, by decide⟩ : Date).compare ⟨-44, 3, 15, by decide, by decide⟩ = .lt ∧
    (Entry.dated .lt ⟨-44, 3, 15, by decide, by decide⟩).holds Entry.descriptor.columns
      (Entry.values ⟨1, none, ⟨-45, 1, 1, by decide, by decide⟩⟩) = .ok false ∧
    answerOn .bound [⟨1, [.null, .text "-0045-01-01"]⟩]
      (Entry.dated .lt ⟨-44, 3, 15, by decide, by decide⟩) = .ok [] ∧
    answerOn .inline [⟨1, [.null, .text "-0045-01-01"]⟩]
      (Entry.dated .lt ⟨-44, 3, 15, by decide, by decide⟩) = .ok [] := by
  refine ⟨by decide, ?_, ?_, ?_⟩ <;> exact eq_ok_of_toOption (by decide +kernel)

end Repository

end RecordStore
