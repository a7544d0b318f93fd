import RecordStore.Proofs.Predicate.Truth

/-!
One predicate in two statements. Its literals stand at other places there, but each is carried
as the same value, so both conditions are true of the same rows, exact or not.
-/
namespace RecordStore

open Sql

variable {columns : List Column} {mode : FilterMode} {values values' : List Value}
  {p : Predicate} {f : Filter}

/-- The truth of a comparison with its literal as the mode carries it. -/
def Comparison.truthIn (mode : FilterMode) (columns : List Column) (t : TableLayout) (r : Row)
    (k : Comparison) : Truth := do
  let column ← Schema.column? columns k.column
  let place := t.place? column.name
  if k.value.isNull then some ((place.all fun place => r.valueAt place == .null) == (k.op == .eq))
  else
    let place ← place
    let value := (t.affinityAt place).operand (k.value.carried mode)
    ((r.valueAt place).storedOrder? value).map k.op.accepts

def Predicate.truthIn (mode : FilterMode) (columns : List Column) (t : TableLayout) (r : Row) :
    Predicate → Truth
  | .compare k => k.truthIn mode columns t r
  | .and p q => (p.truthIn mode columns t r).and (q.truthIn mode columns t r)
  | .or p q => (p.truthIn mode columns t r).or (q.truthIn mode columns t r)

theorem Predicate.Regrouped.truthIn {p q : Predicate} (same : p.Regrouped q) (mode : FilterMode)
    (columns : List Column) (t : TableLayout) (r : Row) :
    p.truthIn mode columns t r = q.truthIn mode columns t r := by
  induction same with
  | refl p => rfl
  | symm _ ih => exact ih.symm
  | trans _ _ first second => exact first.trans second
  | and _ _ left right | or _ _ left right => rw [Predicate.truthIn, Predicate.truthIn, left, right]
  | and_assoc p q r => exact Truth.and_assoc ..
  | or_assoc p q r => exact Truth.or_assoc ..

theorem Sql.Test.Mirrors.truthIn {q : Test} {k : Comparison} {g : Filter}
    (same : q.Mirrors columns mode values k)
    (compiled : Filter.ofComparison columns mode k = .ok g) (t : TableLayout) (r : Row) :
    q.truth t (values.map Value.received) r = k.truthIn mode columns t r := by
  cases same with
  | @isNull _ _ column found name value op =>
    cases at_place : t.place? column.name with
    | none | some place =>
      simp [Test.truth, Test.isNullIn, Comparison.truthIn, found, name, at_place, value, op,
        Literal.isNull]
  | @isNotNull _ _ column found name value op =>
    have other : (CompareOp.ne == CompareOp.eq) = false := rfl
    cases at_place : t.place? column.name with
    | none | some place =>
      simp [Test.truth, Test.isNullIn, Comparison.truthIn, found, name, at_place, value, op,
        Literal.isNull, other]
  | @compare _ _ column v found name value carries =>
    have carried := carries.value (Filter.isFinite_of_ofComparison compiled value)
    have solid : k.value.isNull = false := by
      rw [← Bool.not_eq_true, Literal.isNull_iff]
      exact value
    cases at_place : t.place? column.name with
    | none | some place =>
      simp [Test.truth, Test.compareTruth, Comparison.truthIn, found, name, at_place, solid,
        carried]

/-- A condition that mirrors a predicate has its truth, at whatever places its literals stand. -/
theorem Sql.Condition.Mirrors.truthIn {c : Condition} (same : c.Mirrors columns mode values p)
    (compiled : Filter.ofPredicate columns mode p = .ok f) (t : TableLayout) (r : Row) :
    c.truth t (values.map Value.received) r = p.truthIn mode columns t r := by
  induction same generalizing f with
  | test mirrors => exact mirrors.truthIn compiled t r
  | and _ _ left right | or _ _ left right =>
    obtain ⟨g, hg, compiled⟩ := bind_eq_ok compiled
    obtain ⟨i, hi, _⟩ := bind_eq_ok compiled
    rw [Condition.truth, Predicate.truthIn, left hg, right hi]

/-- No comparison asks for a row key that is the least one by what the mode makes a real of
that value. -/
def Predicate.SparesLeastKeyIn (mode : FilterMode) (columns : List Column) (t : Table)
    (p : Predicate) : Prop :=
  ∀ k ∈ p.comparisons, ∀ column x, Schema.column? columns k.column = some column →
    t.layout.place? column.name = some .key → k.op = .eq →
      (k.value.carried mode).numeric = .real x →
        ∀ r ∈ t.rows, r.key = Int64.minValue → Real64.compareInt? r.key.toInt x ≠ some .eq

variable {t : Table}

theorem Sql.Condition.Mirrors.findsCarriedKeys {c : Condition}
    (same : c.Mirrors columns mode values p)
    (compiled : Filter.ofPredicate columns mode p = .ok f)
    (spares : p.SparesLeastKeyIn mode columns t) :
    t.FindsKeys (values.map Value.received) c.tests := by
  rintro r hr v ⟨name, mem, at_key⟩ equal
  obtain ⟨k, hk, mirrors⟩ := same.exists_of_mem_tests mem
  obtain ⟨g, hg⟩ := Filter.ofComparison_of_ofPredicate compiled k hk
  obtain ⟨column, found, _, _⟩ := Filter.ofComparison_ok hg
  generalize shape_q : Test.compare name .eq v = q at mirrors
  cases mirrors with
  | isNull | isNotNull => cases shape_q
  | compare found' same_name value carries =>
    obtain ⟨rfl, op, rfl⟩ := Test.compare.inj shape_q
    cases Option.some.inj (found.symm.trans found')
    rw [same_name] at at_key
    have finite := Filter.isFinite_of_ofComparison hg value
    have carried := carries.value finite
    have order : (Value.integer r.key).storedOrder? (v.value (values.map Value.received)).numeric
        = some .eq := equal
    rcases Value.toKey?_of_equal ((Value.storedOrder_integer_comm r.key _).mp order)
      with key | ⟨least, x, real⟩
    · exact key
    · rw [real] at order
      rw [carried] at real
      exact absurd order (spares k hk column x found at_key op.symm real r hr least)

/-- Two conditions that mirror one predicate select the same rows, whatever ways they are found
in. -/
theorem Sql.Condition.Mirrors.selected_congr {c c' : Condition}
    (same : c.Mirrors columns mode values p) (same' : c'.Mirrors columns mode values' p)
    (compiled : Filter.ofPredicate columns mode p = .ok f)
    (distinct : (t.rows.map Row.key).Nodup) (spares : p.SparesLeastKeyIn mode columns t)
    (decides decides' : Bool) :
    (t.selected decides (values.map Value.received) (some c)).Perm
      (t.selected decides' (values'.map Value.received) (some c')) := by
  have holds : ∀ r, c.holds t.layout (values.map Value.received) r
      = c'.holds t.layout (values'.map Value.received) r := by
    intro r
    rw [Condition.holds, Condition.holds, same.truthIn compiled, same'.truthIn compiled]
  have first := Table.selected_perm distinct decides (same.findsCarriedKeys compiled spares)
  have second := Table.selected_perm distinct decides' (same'.findsCarriedKeys compiled spares)
  simp only [holds] at first
  exact first.trans second.symm

/-- Rows of a table that a predicate is true of, none of them twice. They are all such rows,
but for a least key that is asked for by a real. -/
structure Predicate.Finds (mode : FilterMode) (columns : List Column) (p : Predicate) (t : Table)
    (found : List Row) : Prop where
  rows : found ⊆ t.rows
  distinct : found.Nodup
  holds : ∀ r ∈ found, p.truthIn mode columns t.layout r = some true
  all : p.SparesLeastKeyIn mode columns t →
    ∀ r ∈ t.rows, p.truthIn mode columns t.layout r = some true → r ∈ found

/-- What is selected under a condition is what its predicate finds. -/
theorem Sql.Condition.Mirrors.finds {c : Condition}
    (same : c.Mirrors columns mode values p.leftNested)
    (compiled : Filter.ofPredicate columns mode p = .ok f)
    (distinct : (t.rows.map Row.key).Nodup) (decidesNotNull : Bool) :
    p.Finds mode columns t
      (t.selected decidesNotNull (values.map Value.received) (some c)) := by
  have nested : Filter.ofPredicate columns mode p.leftNested = .ok f := by
    rw [Filter.ofPredicate_leftNested]
    exact compiled
  have holds (r : Row) : c.holds t.layout (values.map Value.received) r = true ↔
      p.truthIn mode columns t.layout r = some true := by
    rw [Condition.holds, same.truthIn nested, ← p.leftNested_regrouped.truthIn, beq_iff_eq]
  refine ⟨Table.selected_subset decidesNotNull c,
    (Table.selected_keys_nodup distinct decidesNotNull c).of_map, fun r mem => ?_,
    fun spares r row here => ?_⟩
  · exact (holds r).mp (List.mem_filter.mp mem).2
  · have sparesNested : p.leftNested.SparesLeastKeyIn mode columns t := by
      unfold Predicate.SparesLeastKeyIn
      rw [← p.leftNested_regrouped.comparisons]
      exact spares
    have perm := Table.selected_perm distinct decidesNotNull
      (same.findsCarriedKeys nested sparesNested)
    exact perm.mem_iff.mpr (List.mem_filter.mpr ⟨row, (holds r).mpr here⟩)

end RecordStore
