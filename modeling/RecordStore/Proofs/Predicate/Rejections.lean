import RecordStore.Proofs.Entry.Rows
import RecordStore.Proofs.Predicate.Reading
import RecordStore.Proofs.Schema

/-!
What is objected to in a predicate. Filters and the native evaluation both go through the
comparisons from the left and report the first objection. They make the same objections to a
comparison, except that only a filter needs its real literal to be finite.
-/
namespace RecordStore

theorem Literal.isFinite_of_isNull {l : Literal} (null : l.isNull = true) :
    l.isFinite = true := by
  rw [l.isNull_iff.mp null]
  rfl

namespace Comparison

/-- Why a comparison has no meaning on the columns. -/
def objection? (columns : List Column) (k : Comparison) : Option PredicateError :=
  errorOf? (k.check columns)

/-- Why a comparison has no filter. -/
def filterObjection? (columns : List Column) (k : Comparison) : Option PredicateError :=
  (k.objection? columns).or (if k.value.isFinite then none else some .nonFiniteReal)

variable {columns : List Column} {k : Comparison} {c : Column} {e : PredicateError}

theorem isOrdering_iff (op : CompareOp) : op.isOrdering = true ↔ op = .lt ∨ op = .gt := by
  cases op <;> decide

theorem objection?_of_unknown (unknown : Schema.column? columns k.column = none) :
    k.objection? columns = some (.unknownColumn k.column) := by
  simp only [objection?, check, unknown]
  rfl

theorem objection?_of_known (known : Schema.column? columns k.column = some c) :
    k.objection? columns
      = if k.value.fits c.kind = false then some .typeMismatch
        else if (k.value.isNull && k.op.isOrdering) = true then some .orderAgainstNull
        else none := by
  simp only [objection?, check, known]
  cases k.value.fits c.kind with
  | false => rfl
  | true => cases k.value.isNull && k.op.isOrdering <;> rfl

theorem errorOf?_holds (columns : List Column) (values : List Value) (k : Comparison) :
    errorOf? (k.holds columns values) = k.objection? columns := by
  unfold holds objection?
  cases k.check columns with
  | error e => rfl
  | ok column =>
    simp only [ok_bind]
    split <;> rfl

theorem errorOf?_ofComparison (columns : List Column) (mode : FilterMode) (k : Comparison) :
    errorOf? (Filter.ofComparison columns mode k) = k.filterObjection? columns := by
  unfold Filter.ofComparison filterObjection? objection?
  cases k.check columns with
  | error e => rfl
  | ok column =>
    simp only [ok_bind]
    split
    · rename_i null
      rw [Literal.isFinite_of_isNull null]
      rfl
    · cases finite : k.value.isFinite <;> rfl

theorem filterObjection?_of_isFinite (finite : k.value.isFinite = true) :
    k.filterObjection? columns = k.objection? columns := by
  simp [filterObjection?, finite]

theorem filterObjection?_cases (h : k.filterObjection? columns = some e) :
    k.objection? columns = some e ∨ k.objection? columns = none ∧ e = .nonFiniteReal := by
  unfold filterObjection? at h
  cases known : k.objection? columns with
  | some e' =>
    rw [known] at h
    exact .inl h
  | none =>
    rw [known, Option.none_or] at h
    split at h
    · cases h
    · exact .inr ⟨rfl, (Option.some.inj h).symm⟩

variable {ks : List Comparison}

theorem findSome?_of_isFinite (finite : ∀ k ∈ ks, k.value.isFinite = true) :
    ks.findSome? (filterObjection? columns) = ks.findSome? (objection? columns) := by
  induction ks with
  | nil => rfl
  | cons k ks ih =>
    obtain ⟨first, rest⟩ := List.forall_mem_cons.mp finite
    simp only [List.findSome?_cons, filterObjection?_of_isFinite first, ih rest]

theorem findSome?_objection_of_filter (h : ks.findSome? (filterObjection? columns) = some e)
    (other : e ≠ .nonFiniteReal) : ks.findSome? (objection? columns) = some e := by
  induction ks with
  | nil => cases h
  | cons k ks ih =>
    rw [List.findSome?_cons] at h ⊢
    cases here : k.filterObjection? columns with
    | none =>
      rw [here] at h
      rw [(Option.or_eq_none_iff.mp here).1]
      exact ih h
    | some e' =>
      rw [here] at h
      cases Option.some.inj h
      rcases filterObjection?_cases here with known | ⟨_, real⟩
      · rw [known]
      · exact absurd real other

theorem findSome?_filter_of_objection (h : ks.findSome? (objection? columns) = some e) :
    ks.findSome? (filterObjection? columns) = some e ∨
      ks.findSome? (filterObjection? columns) = some .nonFiniteReal := by
  induction ks with
  | nil => cases h
  | cons k ks ih =>
    rw [List.findSome?_cons] at h
    simp only [List.findSome?_cons]
    cases here : k.objection? columns with
    | some e' =>
      rw [here] at h
      cases Option.some.inj h
      left
      simp [filterObjection?, here]
    | none =>
      rw [here] at h
      cases finite : k.value.isFinite with
      | true =>
        rw [filterObjection?_of_isFinite finite, here]
        exact ih h
      | false =>
        right
        simp [filterObjection?, here, finite]

end Comparison

namespace Predicate

variable {columns : List Column} {values : List Value} {mode : FilterMode} {p : Predicate}
  {e : PredicateError}

/-- The native evaluation reports the first objection from the left. -/
theorem errorOf?_holds (columns : List Column) (values : List Value) (p : Predicate) :
    errorOf? (p.holds columns values)
      = p.comparisons.findSome? (Comparison.objection? columns) := by
  induction p with
  | compare k => simp [holds, comparisons, Comparison.errorOf?_holds]
  | and l r left right | or l r left right =>
    rw [comparisons, List.findSome?_append, ← left, ← right]
    apply errorOf?_both

/-- So does the translation to a filter. -/
theorem errorOf?_ofPredicate (columns : List Column) (mode : FilterMode) (p : Predicate) :
    errorOf? (Filter.ofPredicate columns mode p)
      = p.comparisons.findSome? (Comparison.filterObjection? columns) := by
  induction p with
  | compare k => simp [Filter.ofPredicate, comparisons, Comparison.errorOf?_ofComparison]
  | and l r left right | or l r left right =>
    rw [comparisons, List.findSome?_append, ← left, ← right]
    apply errorOf?_both

end Predicate

namespace RecordType

variable {α : Type} {r : RecordType α} {d : Descriptor}

/-- A predicate without infinite or undefined numbers is rejected alike as a filter and by the
native evaluation, whatever the record. With such numbers only the filter objects to them, and
both agree on everything else. -/
theorem rejects_alike (accepted : r.declaration.describe = .ok d) (p : Predicate) (model : α)
    (mode : FilterMode) (e : PredicateError) :
    ((∀ k ∈ p.comparisons, k.value.isFinite = true) →
      (Filter.compile (some p) d mode = .error e ↔
        p.holds r.declaration.columns (r.values model) = .error e)) ∧
    (Filter.compile (some p) d mode = .error e → e ≠ .nonFiniteReal →
      p.holds r.declaration.columns (r.values model) = .error e) ∧
    (p.holds r.declaration.columns (r.values model) = .error e →
      Filter.compile (some p) d mode = .error e ∨
        Filter.compile (some p) d mode = .error .nonFiniteReal) := by
  have native := p.errorOf?_holds r.declaration.columns (r.values model)
  have filter := p.errorOf?_ofPredicate r.declaration.columns mode
  have declared := (Declaration.describe_ok accepted).declared
  simp only [Filter.compile, declared]
  simp only [← errorOf?_eq_some, native, filter]
  refine ⟨fun finite => ?_, Comparison.findSome?_objection_of_filter,
    Comparison.findSome?_filter_of_objection⟩
  rw [Comparison.findSome?_of_isFinite finite]

theorem rejects_alike_entries :
    ∃ p : Predicate, p = .and (.compareWith "ID" .gt (.real ⟨0x3ff8000000000000⟩))
        (.or (.compareWith "ID" .lt .null) (.compareWith "DATE" .eq (.text "2024-01-01"))) ∧
      (∀ k ∈ p.comparisons, k.value.isFinite = true) ∧
      Filter.compile (some p) Entry.descriptor .inline = .error .orderAgainstNull ∧
      ∀ model, p.holds Entry.declaration.columns (entryRecord.values model)
        = .error .orderAgainstNull := by
  refine ⟨_, rfl, by decide, rfl, fun model => ?_⟩
  exact ((rejects_alike (r := entryRecord) Entry.describe_declaration _ model .inline _).1
    (by decide)).mp rfl

/-- A filter objects to an undefined number where the native evaluation finds no match. -/
theorem rejects_apart :
    Filter.compile (some (.compareWith "ID" .gt (.real ⟨0x7ff8000000000000⟩))) Entry.descriptor
        .bound = .error .nonFiniteReal ∧
      (Predicate.compareWith "ID" .gt (.real ⟨0x7ff8000000000000⟩)).holds Entry.declaration.columns
        (entryRecord.values ⟨1, none, ⟨2024, 1, 1, by decide, by decide⟩⟩) = .ok false := by
  constructor
  · rfl
  · exact eq_ok_of_toOption (by decide +kernel)

end RecordType

end RecordStore
