import RecordStore.Predicate.Match
import RecordStore.Proofs.Predicate.Nesting

/-!
Chains of predicates. A list joined by AND from the left is grouped otherwise than the same
list joined from the right, and nothing that is done with a predicate tells the two apart. The
same holds of OR.
-/
namespace RecordStore.Predicate

variable {columns : List Column} {values : List Value}

theorem holds_and_assoc (p q r : Predicate) :
    (Predicate.and (.and p q) r).holds columns values
      = (Predicate.and p (.and q r)).holds columns values := by
  simp only [holds]
  cases p.holds columns values with
  | error e => rfl
  | ok a =>
    cases q.holds columns values with
    | error e => rfl
    | ok b =>
      cases r.holds columns values with
      | error e => rfl
      | ok c => exact congrArg Except.ok (Bool.and_assoc a b c)

theorem holds_or_assoc (p q r : Predicate) :
    (Predicate.or (.or p q) r).holds columns values
      = (Predicate.or p (.or q r)).holds columns values := by
  simp only [holds]
  cases p.holds columns values with
  | error e => rfl
  | ok a =>
    cases q.holds columns values with
    | error e => rfl
    | ok b =>
      cases r.holds columns values with
      | error e => rfl
      | ok c => exact congrArg Except.ok (Bool.or_assoc a b c)

theorem Regrouped.holds {p q : Predicate} (h : Regrouped p q) (columns : List Column)
    (values : List Value) : p.holds columns values = q.holds columns values := by
  induction h with
  | refl p => rfl
  | symm _ ih => exact ih.symm
  | trans _ _ first second => exact first.trans second
  | and _ _ left right | or _ _ left right => simp only [Predicate.holds, left, right]
  | and_assoc p q r => exact holds_and_assoc p q r
  | or_assoc p q r => exact holds_or_assoc p q r

/-- Two predicates with the same filter, or the same error, in each mode and with the same
answer, or the same error, on every record. -/
structure Interchangeable (p q : Predicate) : Prop where
  filter : ∀ (d : Descriptor) (mode : FilterMode),
    Filter.compile (some p) d mode = Filter.compile (some q) d mode
  answer : ∀ (columns : List Column) (values : List Value),
    p.holds columns values = q.holds columns values

theorem Regrouped.interchangeable {p q : Predicate} (h : Regrouped p q) :
    Interchangeable p q where
  filter d mode := Filter.ofPredicate_of_regrouped d.columns mode h
  answer columns values := h.holds columns values

/-- What AND and OR have in common. -/
structure Joins (join : Predicate → Predicate → Predicate) : Prop where
  congr : ∀ {p q p' q'}, Regrouped p p' → Regrouped q q' → Regrouped (join p q) (join p' q')
  assoc : ∀ p q r, Regrouped (join (join p q) r) (join p (join q r))

theorem joins_and : Joins .and := ⟨.and, .and_assoc⟩

theorem joins_or : Joins .or := ⟨.or, .or_assoc⟩

namespace Joins

variable {join : Predicate → Predicate → Predicate}

theorem joinRight_join (joins : Joins join) (p q : Predicate) (rest : List Predicate) :
    Regrouped (joinRight join (join p q) rest) (join p (joinRight join q rest)) := by
  cases rest with
  | nil => exact .refl _
  | cons next rest => exact joins.assoc p q (joinRight join next rest)

theorem joinLeft_regrouped (joins : Joins join) (first : Predicate) (rest : List Predicate) :
    Regrouped (joinLeft join first rest) (joinRight join first rest) := by
  induction rest generalizing first with
  | nil => exact .refl _
  | cons next rest ih =>
    have folded : Regrouped (joinLeft join first (next :: rest))
        (joinRight join (join first next) rest) := ih (join first next)
    exact folded.trans (joins.joinRight_join first next rest)

end Joins

/-- It does not matter from which end a chain is joined. -/
theorem chains_interchangeable (first : Predicate) (rest : List Predicate) :
    Interchangeable (joinLeft .and first rest) (joinRight .and first rest) ∧
      Interchangeable (joinLeft .or first rest) (joinRight .or first rest) :=
  ⟨(joins_and.joinLeft_regrouped first rest).interchangeable,
    (joins_or.joinLeft_regrouped first rest).interchangeable⟩

end RecordStore.Predicate
