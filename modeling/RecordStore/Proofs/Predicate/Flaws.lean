import RecordStore.Proofs.Predicate.Rejections

/-!
Flaws of a predicate: unknown columns, constants of another kind than their column, and orders
against NULL. The native evaluation reports the leftmost flaw, and it does so for every record,
since no value of the record has a part in it.
-/
namespace RecordStore

/-- The column that a name stands for is the first one of that name. -/
def Schema.StandsFor (columns : List Column) (name : String) (c : Column) : Prop :=
  ∃ before after, columns = before ++ c :: after ∧ sameName c.name name = true ∧
    ∀ b ∈ before, sameName b.name name = false

/-- What can be wrong with a comparison, whatever it is evaluated on. -/
inductive Comparison.HasFlaw (columns : List Column) (k : Comparison) : PredicateError → Prop
  | unknown : (∀ c ∈ columns, Schema.sameName c.name k.column = false) →
      HasFlaw columns k (.unknownColumn k.column)
  | kind {c : Column} : Schema.StandsFor columns k.column c → k.value.fits c.kind = false →
      HasFlaw columns k .typeMismatch
  | order {c : Column} : Schema.StandsFor columns k.column c → k.value = .null →
      k.op = .lt ∨ k.op = .gt → HasFlaw columns k .orderAgainstNull

/-- The error is that of the leftmost comparison with a flaw. -/
def Predicate.FirstFlaw (columns : List Column) (p : Predicate) (e : PredicateError) : Prop :=
  ∃ before k after, p.comparisons = before ++ k :: after ∧
    (∀ k' ∈ before, ∀ e', ¬ k'.HasFlaw columns e') ∧ k.HasFlaw columns e

namespace Schema

variable {columns : List Column} {name : String} {c : Column}

theorem column?_eq_some_iff_standsFor :
    column? columns name = some c ↔ StandsFor columns name c := by
  rw [column?, List.find?_eq_some_iff_append, StandsFor]
  constructor
  · rintro ⟨same, before, after, rfl, other⟩
    exact ⟨before, after, rfl, same, fun b mem => by simpa using other b mem⟩
  · rintro ⟨before, after, rfl, same, other⟩
    exact ⟨same, before, after, rfl, fun b mem => by simpa using other b mem⟩

end Schema

namespace Comparison

variable {columns : List Column} {k : Comparison} {c : Column} {e : PredicateError}

theorem HasFlaw.objection (flaw : k.HasFlaw columns e) : k.objection? columns = some e := by
  cases flaw with
  | unknown none => exact objection?_of_unknown (Schema.column?_eq_none_iff.mpr none)
  | kind stands unfit =>
    rw [objection?_of_known (Schema.column?_eq_some_iff_standsFor.mpr stands), if_pos unfit]
  | @order c stands null op =>
    -- NULL fits every column, so the check before this one has passed.
    have fits : k.value.fits c.kind = true := by
      rw [null]
      rfl
    have ordering : (k.value.isNull && k.op.isOrdering) = true := by
      rw [null, (isOrdering_iff k.op).mpr op]
      rfl
    rw [objection?_of_known (Schema.column?_eq_some_iff_standsFor.mpr stands), fits,
      if_neg (by decide), if_pos ordering]

theorem HasFlaw.of_objection (objection : k.objection? columns = some e) :
    k.HasFlaw columns e := by
  cases known : Schema.column? columns k.column with
  | none =>
    rw [objection?_of_unknown known] at objection
    cases Option.some.inj objection
    exact .unknown (Schema.column?_eq_none_iff.mp known)
  | some c =>
    have stands := Schema.column?_eq_some_iff_standsFor.mp known
    rw [objection?_of_known known] at objection
    split at objection
    case isTrue unfit =>
      cases Option.some.inj objection
      exact .kind stands unfit
    case isFalse =>
      split at objection
      case isTrue order =>
        cases Option.some.inj objection
        rw [Bool.and_eq_true, Literal.isNull_iff, isOrdering_iff] at order
        exact .order stands order.1 order.2
      case isFalse => cases objection

theorem hasFlaw_iff : k.HasFlaw columns e ↔ k.objection? columns = some e :=
  ⟨HasFlaw.objection, HasFlaw.of_objection⟩

end Comparison

namespace Predicate

variable {columns : List Column} {p : Predicate} {e : PredicateError}

theorem firstFlaw_iff :
    p.FirstFlaw columns e ↔
      p.comparisons.findSome? (Comparison.objection? columns) = some e := by
  simp only [FirstFlaw, Comparison.hasFlaw_iff, List.findSome?_eq_some_iff,
    ← Option.eq_none_iff_forall_ne_some]
  constructor
  · rintro ⟨before, k, after, split, sound, first⟩
    exact ⟨before, k, after, split, first, sound⟩
  · rintro ⟨before, k, after, split, first, sound⟩
    exact ⟨before, k, after, split, sound, first⟩

theorem holds_eq_error_iff (columns : List Column) (values : List Value) (p : Predicate)
    (e : PredicateError) : p.holds columns values = .error e ↔ p.FirstFlaw columns e := by
  rw [firstFlaw_iff, ← errorOf?_holds columns values p, errorOf?_eq_some]

theorem exists_firstFlaw_iff :
    (∃ e, p.FirstFlaw columns e) ↔ ∃ k ∈ p.comparisons, ∃ e, k.HasFlaw columns e := by
  simp only [firstFlaw_iff, Comparison.hasFlaw_iff, ← Option.isSome_iff_exists,
    List.isSome_findSome?, List.any_eq_true]

/-- Any two records fail alike, whatever the columns are and however many values the records
hold. There is a failure exactly if a comparison has a flaw, and it is that of the leftmost such
comparison, whether or not those before it are satisfied. -/
theorem fails_for_every_record (columns : List Column) (p : Predicate) :
    (∀ (first second : List Value) (e : PredicateError),
      p.holds columns first = .error e ↔ p.holds columns second = .error e) ∧
    ∀ values : List Value,
      ((∃ e, p.holds columns values = .error e) ↔
        ∃ k ∈ p.comparisons, ∃ e, k.HasFlaw columns e) ∧
      ∀ e, p.holds columns values = .error e ↔ p.FirstFlaw columns e := by
  refine ⟨fun first second e => ?_, fun values => ⟨?_, p.holds_eq_error_iff columns values⟩⟩
  · rw [holds_eq_error_iff, holds_eq_error_iff]
  · simp only [holds_eq_error_iff]
    exact exists_firstFlaw_iff

end Predicate

end RecordStore
