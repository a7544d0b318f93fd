import RecordStore.Predicate.Match
import RecordStore.Proofs.Calendar
import RecordStore.Proofs.Number.Rounding
import RecordStore.Proofs.Predicate.Truth
import RecordStore.Record

/-!
Entries as rows of their table. A row reads back as its entry, and a predicate is true of the
row where it holds of the entry, as long as rounding the identifier leaves each comparison
with a real alone.
-/
namespace RecordStore

-- Powers of numbers are those of the core library, whatever algebra is imported beside it.
attribute [local instance (high)] instPowNat instNatPowNat

open Sql

namespace Entry

def descriptor : Descriptor := ⟨"EntryRecord", "ENTRIES", declaration.columns⟩

theorem describe_declaration : declaration.describe = .ok descriptor :=
  eq_ok_of_toOption (by decide)

theorem table_free : isKeyword descriptor.table = false := by decide

theorem columns_free : ∀ c ∈ descriptor.columns, isReserved c.name = false := by decide

theorem place_id : entriesLayout.place? "ID" = some .key := by decide

theorem place_description : entriesLayout.place? "DESCRIPTION" = some (.cell 0) := by
  decide

theorem place_date : entriesLayout.place? "DATE" = some (.cell 1) := by decide

theorem hasColumns : entriesLayout.HasColumns descriptor.columns := by
  intro column mem
  simp only [descriptor, declaration, List.mem_cons, List.not_mem_nil, or_false] at mem
  rcases mem with rfl | rfl | rfl
  · exact ⟨.key, place_id, rfl⟩
  · exact ⟨.cell 0, place_description, rfl⟩
  · exact ⟨.cell 1, place_date, rfl⟩

def row (e : Entry) : Row :=
  ⟨e.id, [match e.description with | none => .null | some s => .text s, .text e.date.text]⟩

theorem values_row (e : Entry) : e.row.values = e.values := rfl

theorem ofRow_row (e : Entry) : ofRow ⟨entriesLayout.columnNames, e.row.values⟩ = .ok e := by
  have id : entriesLayout.columnNames.findIdx? (fun c => Schema.sameName c "ID") = some 0 := by
    decide
  have description : entriesLayout.columnNames.findIdx?
      (fun c => Schema.sameName c "DESCRIPTION") = some 1 := by decide
  have date : entriesLayout.columnNames.findIdx? (fun c => Schema.sameName c "DATE") = some 2 := by
    decide
  obtain ⟨i, s, d⟩ := e
  cases s with
  | none | some s =>
    simp [ofRow, readId, readDescription, readDate, ResultRow.value, id, description, date,
      values_row, values, Date.read_text, ok_bind, pure, Except.pure]

theorem column_cases {name : String} {column : Column}
    (found : Schema.column? descriptor.columns name = some column) :
    (column = ⟨"ID", .integer⟩ ∧ Schema.position? descriptor.columns name = some 0) ∨
      (column = ⟨"DESCRIPTION", .text⟩ ∧ Schema.position? descriptor.columns name = some 1) ∨
      (column = ⟨"DATE", .date⟩ ∧ Schema.position? descriptor.columns name = some 2) := by
  simp only [descriptor, declaration, Schema.column?, Schema.position?, List.find?_cons,
    List.findIdx?_cons] at found ⊢
  cases first : Schema.sameName "ID" name with
  | true => simp_all
  | false =>
    cases second : Schema.sameName "DESCRIPTION" name with
    | true => simp_all
    | false => cases third : Schema.sameName "DATE" name <;> simp_all

end Entry

/-- Rounding an identifier to a real does not change what the comparison says of it. -/
def Comparison.AllowsRounding (i : Int64) (k : Comparison) : Prop :=
  ∀ x, k.value = .real x →
    ((Real64.ofInt i.toInt).compare? x).map k.op.accepts
      = (Real64.compareInt? i.toInt x).map k.op.accepts

theorem Comparison.allowsRounding_of_small {i : Int64} (small : i.toInt.natAbs ≤ 2 ^ 53)
    (k : Comparison) : k.AllowsRounding i := by
  intro x _
  obtain ⟨number, units⟩ := Real64.ofInt_exact small
  simp only [Real64.compare?, Real64.compareInt?, number, Bool.false_or, units]

namespace Entry

theorem value_cases (e : Entry) {name : String} {column : Column}
    (found : Schema.column? descriptor.columns name = some column) :
    ∃ place, entriesLayout.place? column.name = some place ∧
      e.row.valueAt place = valueIn descriptor.columns e.values name := by
  rcases column_cases found with ⟨rfl, at_place⟩ | ⟨rfl, at_place⟩ | ⟨rfl, at_place⟩
  · exact ⟨.key, place_id, by rw [valueIn, at_place]; rfl⟩
  · exact ⟨.cell 0, place_description, by rw [valueIn, at_place]; rfl⟩
  · exact ⟨.cell 1, place_date, by rw [valueIn, at_place]; rfl⟩

theorem satisfies_iff (e : Entry) {k : Comparison} {column : Column}
    (found : Schema.column? descriptor.columns k.column = some column)
    (fits : k.value.fits column.kind = true) (value : k.value ≠ .null)
    (rounding : k.AllowsRounding e.id) :
    ((valueIn descriptor.columns e.values k.column).storedOrder? k.value.toValue).map k.op.accepts
        = some true ↔
      (valueIn descriptor.columns e.values k.column).satisfies k.op k.value.toValue = true := by
  have satisfies_eq (v w : Value) :
      (v.order? w).map k.op.accepts = some true ↔ v.satisfies k.op w = true := by
    unfold Value.satisfies
    cases v.order? w <;> simp
  rw [← satisfies_eq]
  rcases column_cases found with ⟨rfl, at_place⟩ | ⟨rfl, at_place⟩ | ⟨rfl, at_place⟩
  · have identifier : valueIn descriptor.columns e.values k.column = .integer e.id := by
      rw [valueIn, at_place]
      rfl
    rw [identifier]
    cases shown : k.value with
    | null => exact absurd shown value
    | integer i => rfl
    | real x =>
      have agree := rounding x shown
      simp only [Literal.toValue, Value.order?, Value.storedOrder?, agree]
    | text | date | boolean =>
      rw [shown] at fits
      cases fits
  · have description : valueIn descriptor.columns e.values k.column
        = match e.description with | none => .null | some s => .text s := by
      rw [valueIn, at_place]
      rfl
    rw [description]
    cases shown : k.value with
    | null => exact absurd shown value
    | text s => cases e.description <;> rfl
    | integer | real | date | boolean =>
      rw [shown] at fits
      cases fits
  · have date : valueIn descriptor.columns e.values k.column = .text e.date.text := by
      rw [valueIn, at_place]
      rfl
    rw [date]
    cases shown : k.value with
    | null => exact absurd shown value
    | date d => rfl
    | integer | real | text | boolean =>
      rw [shown] at fits
      cases fits

variable {mode : FilterMode}

theorem truthOn_comparison {k : Comparison} {g : Filter} (e : Entry)
    (compiled : Filter.ofComparison descriptor.columns mode k = .ok g)
    (rounding : k.AllowsRounding e.id) :
    ∃ b, k.holds descriptor.columns e.values = .ok b ∧
      (k.truthOn descriptor.columns entriesLayout e.row = some true ↔ b = true) := by
  obtain ⟨column, checked, _⟩ := bind_eq_ok compiled
  obtain ⟨found, fits, _⟩ := Comparison.check_ok checked
  obtain ⟨place, at_place, held⟩ := e.value_cases found
  cases null : k.value.isNull with
  | true =>
    refine ⟨(valueIn descriptor.columns e.values k.column == .null) == (k.op == .eq), ?_, ?_⟩
    · simp only [Comparison.holds, checked, ok_bind, null, if_true]
      rfl
    · simp [Comparison.truthOn, found, at_place, null, held]
  | false =>
    have value : k.value ≠ .null := by
      rw [ne_eq, ← Literal.isNull_iff, null]
      decide
    refine ⟨(valueIn descriptor.columns e.values k.column).satisfies k.op k.value.toValue, ?_, ?_⟩
    · simp only [Comparison.holds, checked, ok_bind, null, Bool.false_eq_true, if_false]
      rfl
    · rw [← e.satisfies_iff found fits value rounding]
      simp [Comparison.truthOn, found, at_place, null, held]

/-- A predicate is true of the row of an entry exactly if it holds of the entry. -/
theorem truthOn_iff_holds {p : Predicate} {f : Filter} (e : Entry)
    (compiled : Filter.ofPredicate descriptor.columns mode p = .ok f)
    (rounding : ∀ k ∈ p.comparisons, k.AllowsRounding e.id) :
    ∃ b, p.holds descriptor.columns e.values = .ok b ∧
      (p.truthOn descriptor.columns entriesLayout e.row = some true ↔ b = true) := by
  induction p generalizing f with
  | compare k => exact e.truthOn_comparison compiled (rounding k (List.mem_singleton_self k))
  | and l r left right =>
    obtain ⟨g, hg, compiled⟩ := bind_eq_ok compiled
    obtain ⟨i, hi, _⟩ := bind_eq_ok compiled
    obtain ⟨a, ha, first⟩ := left hg fun k mem => rounding k (List.mem_append_left _ mem)
    obtain ⟨b, hb, second⟩ := right hi fun k mem => rounding k (List.mem_append_right _ mem)
    refine ⟨a && b, ?_, ?_⟩
    · simp only [Predicate.holds, ha, hb, ok_bind]
      rfl
    · rw [Predicate.truthOn, Truth.and_eq_true, first, second, Bool.and_eq_true]
  | or l r left right =>
    obtain ⟨g, hg, compiled⟩ := bind_eq_ok compiled
    obtain ⟨i, hi, _⟩ := bind_eq_ok compiled
    obtain ⟨a, ha, first⟩ := left hg fun k mem => rounding k (List.mem_append_left _ mem)
    obtain ⟨b, hb, second⟩ := right hi fun k mem => rounding k (List.mem_append_right _ mem)
    refine ⟨a || b, ?_, ?_⟩
    · simp only [Predicate.holds, ha, hb, ok_bind]
      rfl
    · rw [Predicate.truthOn, Truth.or_eq_true, first, second, Bool.or_eq_true]

end Entry

end RecordStore
