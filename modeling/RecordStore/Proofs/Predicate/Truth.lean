import RecordStore.Proofs.Number.Order
import RecordStore.Proofs.Predicate.Reading
import RecordStore.Proofs.Store.Selection

/-!
The truth of a predicate in a stored row. However the literals of its filter are written,
the condition that the store reads is true of the rows that the predicate is true of, and
these are the rows that it selects.
-/
namespace RecordStore

open Sql

def ColumnKind.affinity : ColumnKind → Affinity
  | .integer | .boolean => .integer
  | .real => .real
  | .text | .date => .text

/-- The columns are in the table, each with the affinity of its kind. -/
def TableLayout.HasColumns (t : TableLayout) (columns : List Column) : Prop :=
  ∀ column ∈ columns, ∃ place, t.place? column.name = some place ∧
    t.affinityAt place = column.kind.affinity

def Real64.ReadsBack (x : Real64) : Prop :=
  (Value.text x.plainText).numeric.storedOrder? (.real x) = some .eq

def Comparison.truthOn (columns : List Column) (t : TableLayout) (r : Row) (k : Comparison) :
    Truth := do
  let column ← Schema.column? columns k.column
  let place ← t.place? column.name
  if k.value.isNull then some ((r.valueAt place == .null) == (k.op == .eq))
  else ((r.valueAt place).storedOrder? k.value.toValue).map k.op.accepts

def Predicate.truthOn (columns : List Column) (t : TableLayout) (r : Row) : Predicate → Truth
  | .compare k => k.truthOn columns t r
  | .and p q => (p.truthOn columns t r).and (q.truthOn columns t r)
  | .or p q => (p.truthOn columns t r).or (q.truthOn columns t r)

theorem Predicate.Regrouped.truthOn {p q : Predicate} (same : p.Regrouped q)
    (columns : List Column) (t : TableLayout) (r : Row) :
    p.truthOn columns t r = q.truthOn columns t r := by
  induction same with
  | refl p => rfl
  | symm _ ih => exact ih.symm
  | trans _ _ first second => exact first.trans second
  | and _ _ left right | or _ _ left right => rw [Predicate.truthOn, Predicate.truthOn, left, right]
  | and_assoc p q r => exact Truth.and_assoc ..
  | or_assoc p q r => exact Truth.or_assoc ..

theorem Filter.ofComparison_of_ofPredicate {columns : List Column} {mode : FilterMode}
    {p : Predicate} {f : Filter} (compiled : ofPredicate columns mode p = .ok f) :
    ∀ k ∈ p.comparisons, ∃ g, ofComparison columns mode k = .ok g := by
  induction p generalizing f with
  | compare k =>
    intro k' mem
    cases List.mem_singleton.mp mem
    exact ⟨f, compiled⟩
  | and l r left right | or l r left right =>
    obtain ⟨g, hg, compiled⟩ := bind_eq_ok compiled
    obtain ⟨i, hi, _⟩ := bind_eq_ok compiled
    intro k mem
    rcases List.mem_append.mp mem with first | second
    · exact left hg k first
    · exact right hi k second

section

variable {columns : List Column} {mode : FilterMode} {values : List Value} {t : TableLayout}

theorem Literal.received_toValue {l : Literal} (finite : l.isFinite = true) :
    l.toValue.received = l.toValue := by
  cases l with
  | real x =>
    have number : x.isNaN = false := by
      simp only [isFinite, Real64.isFinite, decide_eq_true_eq] at finite
      simp only [Real64.isNaN, decide_eq_false_iff_not]
      omega
    simp [toValue, Value.received, number]
  | null | integer | text | date | boolean => rfl

theorem Literal.operand_toValue {l : Literal} {kind : ColumnKind} (value : l ≠ .null)
    (fits : l.fits kind = true) : kind.affinity.operand l.toValue = l.toValue := by
  cases l with
  | null => exact absurd rfl value
  | integer i | real x =>
    cases kind with
    | integer | real => rfl
    | text | date | boolean => cases fits
  | text s =>
    cases kind with
    | text => rfl
    | integer | real | date | boolean => cases fits
  | date d =>
    cases kind with
    | date => rfl
    | integer | real | text | boolean => cases fits
  | boolean b =>
    cases kind with
    | boolean => rfl
    | integer | real | text | date => cases fits

def Literal.carried (l : Literal) : FilterMode → Value
  | .bound => l.toValue
  | .inline => .text l.spelled

theorem Carries.value {o : Operand} {l : Literal} (carries : Carries mode values o l)
    (finite : l.isFinite = true) : o.value (values.map Value.received) = l.carried mode := by
  cases mode with
  | bound =>
    cases o with
    | text content => cases carries
    | parameter place =>
      have held : values[place]? = some l.toValue := carries
      simp [Operand.value, held, Literal.received_toValue finite, Literal.carried]
  | inline =>
    cases o with
    | parameter place => cases carries
    | text content =>
      have spelled : content = l.spelled := carries
      rw [Operand.value, spelled, Literal.carried]

theorem Literal.numeric_spelled {l : Literal} {i : Int64} (whole : l.toValue = .integer i) :
    (Value.text l.spelled).numeric = .integer i := by
  cases l with
  | null | real | text | date => cases whole
  | integer j =>
    cases whole
    exact Value.numeric_toString i
  | boolean b =>
    cases whole
    cases b
    · exact Value.numeric_toString 0
    · exact Value.numeric_toString 1

theorem Carries.storedOrder? {o : Operand} {l : Literal} {kind : ColumnKind}
    (carries : Carries mode values o l) (value : l ≠ .null) (fits : l.fits kind = true)
    (finite : l.isFinite = true) (real : mode = .inline → ∀ x, l = .real x → x.ReadsBack)
    (a : Value) :
    a.storedOrder? (kind.affinity.operand (o.value (values.map Value.received)))
      = a.storedOrder? l.toValue := by
  rw [carries.value finite]
  cases mode with
  | bound => rw [Literal.carried, Literal.operand_toValue value fits]
  | inline =>
    rw [Literal.carried]
    cases l with
    | null => exact absurd rfl value
    | integer i =>
      have number : (Value.text (Literal.integer i).spelled).numeric = .integer i :=
        Literal.numeric_spelled rfl
      cases kind with
      | integer | real => exact congrArg a.storedOrder? number
      | text | date | boolean => cases fits
    | boolean b =>
      have number : (Value.text (Literal.boolean b).spelled).numeric
          = .integer (if b then 1 else 0) := Literal.numeric_spelled rfl
      cases kind with
      | boolean => exact congrArg a.storedOrder? number
      | integer | real | text | date => cases fits
    | real x =>
      have equal := Value.storedOrder?_congr (real rfl x rfl) a
      cases kind with
      | integer | real => exact equal
      | text | date | boolean => cases fits
    | text s =>
      cases kind with
      | text => rfl
      | integer | real | date | boolean => cases fits
    | date d =>
      cases kind with
      | date => rfl
      | integer | real | text | boolean => cases fits

/-- What the literals of a predicate have to keep for a filter to say what it says. -/
def Filter.IsExact (mode : FilterMode) (p : Predicate) : Prop :=
  mode = .inline → ∀ k ∈ p.comparisons, ∀ x, k.value = .real x → x.ReadsBack

theorem Sql.Test.Mirrors.truth {q : Test} {k : Comparison} {g : Filter}
    (same : q.Mirrors columns mode values k)
    (compiled : Filter.ofComparison columns mode k = .ok g) (placed : t.HasColumns columns)
    (real : mode = .inline → ∀ x, k.value = .real x → x.ReadsBack) (r : Row) :
    q.truth t (values.map Value.received) r = k.truthOn columns t r := by
  obtain ⟨column, found, fits, _⟩ := Filter.ofComparison_ok compiled
  obtain ⟨place, at_place, affinity⟩ := placed column (mem_of_column? found)
  cases same with
  | isNull found' name value op =>
    cases Option.some.inj (found.symm.trans found')
    simp [Test.truth, Test.isNullIn, Comparison.truthOn, found, name, at_place, value, op,
      Literal.isNull]
  | isNotNull found' name value op =>
    cases Option.some.inj (found.symm.trans found')
    have other : (CompareOp.ne == CompareOp.eq) = false := rfl
    simp [Test.truth, Test.isNullIn, Comparison.truthOn, found, name, at_place, value, op,
      Literal.isNull, other]
  | compare found' name value carries =>
    cases Option.some.inj (found.symm.trans found')
    have finite := Filter.isFinite_of_ofComparison compiled value
    have solid : k.value.isNull = false := by
      rw [← Bool.not_eq_true, Literal.isNull_iff]
      exact value
    have order := carries.storedOrder? value fits finite real (r.valueAt place)
    simp [Test.truth, Test.compareTruth, Comparison.truthOn, found, name, at_place, solid,
      affinity, order]

theorem Sql.Condition.Mirrors.truth {c : Condition} {p : Predicate} {f : Filter}
    (same : c.Mirrors columns mode values p)
    (compiled : Filter.ofPredicate columns mode p = .ok f) (placed : t.HasColumns columns)
    (exact_ : Filter.IsExact mode p) (r : Row) :
    c.truth t (values.map Value.received) r = p.truthOn columns t r := by
  induction same generalizing f with
  | @test q k mirrors =>
    exact mirrors.truth compiled placed
      (fun inline => exact_ inline k (List.mem_singleton_self k)) r
  | and _ _ left right =>
    obtain ⟨g, hg, compiled⟩ := bind_eq_ok compiled
    obtain ⟨i, hi, _⟩ := bind_eq_ok compiled
    rw [Condition.truth, Predicate.truthOn,
      left hg fun inline k mem => exact_ inline k (List.mem_append_left _ mem),
      right hi fun inline k mem => exact_ inline k (List.mem_append_right _ mem)]
  | or _ _ left right =>
    obtain ⟨g, hg, compiled⟩ := bind_eq_ok compiled
    obtain ⟨i, hi, _⟩ := bind_eq_ok compiled
    rw [Condition.truth, Predicate.truthOn,
      left hg fun inline k mem => exact_ inline k (List.mem_append_left _ mem),
      right hi fun inline k mem => exact_ inline k (List.mem_append_right _ mem)]

theorem Sql.Condition.Mirrors.exists_of_mem_tests {c : Condition} {p : Predicate}
    (same : c.Mirrors columns mode values p) {q : Test} (mem : q ∈ c.tests) :
    ∃ k ∈ p.comparisons, q.Mirrors columns mode values k := by
  induction same with
  | @test q' k mirrors =>
    cases List.mem_singleton.mp mem
    exact ⟨k, List.mem_singleton_self k, mirrors⟩
  | and _ _ left right | or _ _ left right =>
    rcases List.mem_append.mp mem with first | second
    · obtain ⟨k, hk, mirrors⟩ := left first
      exact ⟨k, List.mem_append_left _ hk, mirrors⟩
    · obtain ⟨k, hk, mirrors⟩ := right second
      exact ⟨k, List.mem_append_right _ hk, mirrors⟩

end

/-- No comparison asks for the least row key by the real that equals it, which is the one
value that a key is not found by. -/
def Predicate.SparesLeastKey (columns : List Column) (t : Table) (p : Predicate) : Prop :=
  ∀ k ∈ p.comparisons, ∀ column x, Schema.column? columns k.column = some column →
    t.layout.place? column.name = some .key → k.op = .eq → k.value = .real x →
      ∀ r ∈ t.rows, r.key = Int64.minValue → Real64.compareInt? r.key.toInt x ≠ some .eq

section

variable {columns : List Column} {mode : FilterMode} {values : List Value} {t : Table}
  {c : Condition} {p : Predicate} {f : Filter}

theorem Sql.Condition.Mirrors.findsKeys (same : c.Mirrors columns mode values p)
    (compiled : Filter.ofPredicate columns mode p = .ok f)
    (placed : t.layout.HasColumns columns) (exact_ : Filter.IsExact mode p)
    (spares : p.SparesLeastKey columns t) :
    t.FindsKeys (values.map Value.received) c.tests := by
  rintro r hr v ⟨name, mem, at_key⟩ equal
  obtain ⟨k, hk, mirrors⟩ := same.exists_of_mem_tests mem
  obtain ⟨g, hg⟩ := Filter.ofComparison_of_ofPredicate compiled k hk
  obtain ⟨column, found, fits, _⟩ := Filter.ofComparison_ok hg
  obtain ⟨place, at_place, affinity⟩ := placed column (mem_of_column? found)
  generalize shape_q : Test.compare name .eq v = q at mirrors
  cases mirrors with
  | isNull | isNotNull => cases shape_q
  | compare found' same_name value carries =>
    obtain ⟨rfl, op, rfl⟩ := Test.compare.inj shape_q
    cases Option.some.inj (found.symm.trans found')
    rw [same_name, at_place] at at_key
    cases Option.some.inj at_key
    have finite := Filter.isFinite_of_ofComparison hg value
    have order : (Value.integer r.key).storedOrder? k.value.toValue = some .eq := by
      rw [← carries.storedOrder? value fits finite (fun inline => exact_ inline k hk), ← affinity]
      exact equal
    rcases Value.toKey?_of_equal ((Value.storedOrder_integer_comm r.key _).mp equal)
      with key | ⟨least, x, real⟩
    · exact key
    · have fraction : ∀ i, k.value.toValue ≠ .integer i := by
        intro i whole
        rw [carries.value finite] at real
        cases mode with
        | bound =>
          rw [Literal.carried, whole] at real
          cases real
        | inline =>
          rw [Literal.carried, Literal.numeric_spelled whole] at real
          cases real
      cases shown : k.value with
      | null => exact absurd shown value
      | integer i | boolean b =>
        rw [shown] at fraction
        exact absurd rfl (fraction _)
      | real y =>
        rw [shown] at order
        exact absurd order (spares k hk column y found at_place op.symm shown r hr least)
      | text s | date d =>
        rw [shown] at order
        cases order

/-- A condition that mirrors a predicate selects the rows that the predicate is true of. -/
theorem Sql.Condition.Mirrors.selected_perm (same : c.Mirrors columns mode values p)
    (compiled : Filter.ofPredicate columns mode p = .ok f)
    (placed : t.layout.HasColumns columns) (distinct : (t.rows.map Row.key).Nodup)
    (exact_ : Filter.IsExact mode p) (spares : p.SparesLeastKey columns t)
    (decidesNotNull : Bool) :
    (t.selected decidesNotNull (values.map Value.received) (some c)).Perm
      (t.rows.filter fun r => p.truthOn columns t.layout r == some true) := by
  have truth (r : Row) : c.holds t.layout (values.map Value.received) r
      = (p.truthOn columns t.layout r == some true) := by
    rw [Condition.holds, same.truth compiled placed exact_ r]
  simp only [← truth]
  exact Table.selected_perm distinct decidesNotNull
    (same.findsKeys compiled placed exact_ spares)

end

end RecordStore
