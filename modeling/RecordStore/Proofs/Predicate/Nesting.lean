import RecordStore.Proofs.Outcome
import RecordStore.Predicate.Filter

/-!
Grouping of predicates. The filter text does not show how nested ANDs or nested ORs are
grouped, so every predicate has the text of one whose groups all lie on the left.
-/
namespace RecordStore.Predicate

/-- The same up to the grouping of nested ANDs and of nested ORs. -/
inductive Regrouped : Predicate → Predicate → Prop
  | refl (p : Predicate) : Regrouped p p
  | symm {p q : Predicate} : Regrouped p q → Regrouped q p
  | trans {p q r : Predicate} : Regrouped p q → Regrouped q r → Regrouped p r
  | and {p q p' q' : Predicate} :
      Regrouped p p' → Regrouped q q' → Regrouped (.and p q) (.and p' q')
  | or {p q p' q' : Predicate} :
      Regrouped p p' → Regrouped q q' → Regrouped (.or p q) (.or p' q')
  | and_assoc (p q r : Predicate) : Regrouped (.and (.and p q) r) (.and p (.and q r))
  | or_assoc (p q r : Predicate) : Regrouped (.or (.or p q) r) (.or p (.or q r))

def isAnd : Predicate → Bool
  | .and _ _ => true
  | _ => false

/-- No AND has an AND on its right, and no OR an OR. -/
def IsLeftNested : Predicate → Prop
  | .compare _ => True
  | .and l r => l.IsLeftNested ∧ r.IsLeftNested ∧ r.isAnd = false
  | .or l r => l.IsLeftNested ∧ r.IsLeftNested ∧ r.isOr = false

def joinAnd (p : Predicate) : Predicate → Predicate
  | .and q r => .and (joinAnd p q) r
  | q => .and p q

def joinOr (p : Predicate) : Predicate → Predicate
  | .or q r => .or (joinOr p q) r
  | q => .or p q

def leftNested : Predicate → Predicate
  | .compare c => .compare c
  | .and l r => l.leftNested.joinAnd r.leftNested
  | .or l r => l.leftNested.joinOr r.leftNested

theorem joinAnd_regrouped (p q : Predicate) : Regrouped (.and p q) (p.joinAnd q) := by
  induction q with
  | compare c => exact .refl _
  | or l r _ _ => exact .refl _
  | and l r left _ => exact .trans (.symm (.and_assoc p l r)) (.and left (.refl r))

theorem joinOr_regrouped (p q : Predicate) : Regrouped (.or p q) (p.joinOr q) := by
  induction q with
  | compare c => exact .refl _
  | and l r _ _ => exact .refl _
  | or l r left _ => exact .trans (.symm (.or_assoc p l r)) (.or left (.refl r))

theorem leftNested_regrouped (p : Predicate) : Regrouped p p.leftNested := by
  induction p with
  | compare c => exact .refl _
  | and l r left right => exact .trans (.and left right) (joinAnd_regrouped _ _)
  | or l r left right => exact .trans (.or left right) (joinOr_regrouped _ _)

theorem joinAnd_isLeftNested {p q : Predicate} (first : p.IsLeftNested)
    (second : q.IsLeftNested) : (p.joinAnd q).IsLeftNested := by
  induction q with
  | compare c => exact ⟨first, second, rfl⟩
  | or l r _ _ => exact ⟨first, second, rfl⟩
  | and l r left _ => exact ⟨left second.1, second.2⟩

theorem joinOr_isLeftNested {p q : Predicate} (first : p.IsLeftNested)
    (second : q.IsLeftNested) : (p.joinOr q).IsLeftNested := by
  induction q with
  | compare c => exact ⟨first, second, rfl⟩
  | and l r _ _ => exact ⟨first, second, rfl⟩
  | or l r left _ => exact ⟨left second.1, second.2⟩

theorem leftNested_isLeftNested (p : Predicate) : p.leftNested.IsLeftNested := by
  induction p with
  | compare c => trivial
  | and l r left right => exact joinAnd_isLeftNested left right
  | or l r left right => exact joinOr_isLeftNested left right

theorem Regrouped.isOr {p q : Predicate} (h : Regrouped p q) : p.isOr = q.isOr := by
  induction h with
  | refl p => rfl
  | symm _ ih => exact ih.symm
  | trans _ _ first second => exact first.trans second
  | and _ _ _ _ | or _ _ _ _ | and_assoc p q r | or_assoc p q r => rfl

theorem Regrouped.comparisons {p q : Predicate} (h : Regrouped p q) :
    p.comparisons = q.comparisons := by
  induction h with
  | refl p => rfl
  | symm _ ih => exact ih.symm
  | trans _ _ first second => exact first.trans second
  | and _ _ left right => simp [Predicate.comparisons, left, right]
  | or _ _ left right => simp [Predicate.comparisons, left, right]
  | and_assoc p q r => simp [Predicate.comparisons]
  | or_assoc p q r => simp [Predicate.comparisons]

/-- The value of the predicate, where the comparison at a place, counted from the left, has
the given value. -/
def valueUnder (truth : Nat → Bool) : Nat → Predicate → Bool
  | place, .compare _ => truth place
  | place, .and l r =>
    l.valueUnder truth place && r.valueUnder truth (place + l.comparisons.length)
  | place, .or l r =>
    l.valueUnder truth place || r.valueUnder truth (place + l.comparisons.length)

theorem Regrouped.valueUnder {p q : Predicate} (h : Regrouped p q) (truth : Nat → Bool)
    (place : Nat) : p.valueUnder truth place = q.valueUnder truth place := by
  induction h generalizing place with
  | refl p => rfl
  | symm _ ih => exact (ih place).symm
  | trans _ _ first second => exact (first place).trans (second place)
  | and hl _ left right => simp [Predicate.valueUnder, left, right, hl.comparisons]
  | or hl _ left right => simp [Predicate.valueUnder, left, right, hl.comparisons]
  | and_assoc p q r =>
    simp [Predicate.valueUnder, Predicate.comparisons, Bool.and_assoc, Nat.add_assoc]
  | or_assoc p q r =>
    simp [Predicate.valueUnder, Predicate.comparisons, Bool.or_assoc, Nat.add_assoc]

end RecordStore.Predicate

namespace RecordStore.Filter

open Predicate

variable (columns : List Column) (mode : FilterMode)

theorem joined_assoc (separator : String) (f g h : Filter) :
    (f.joined separator g).joined separator h = f.joined separator (g.joined separator h) := by
  simp [joined, String.append_assoc]

theorem ofPredicate_and_assoc (p q r : Predicate) :
    ofPredicate columns mode (.and (.and p q) r)
      = ofPredicate columns mode (.and p (.and q r)) := by
  -- The AND that is moved is no OR, so on neither side is it parenthesized.
  have inner (l r : Predicate) : underAnd (.and l r) = id := rfl
  simp only [ofPredicate, inner]
  cases ofPredicate columns mode p with
  | error e => rfl
  | ok f =>
    cases ofPredicate columns mode q with
    | error e => rfl
    | ok g =>
      cases ofPredicate columns mode r with
      | error e => rfl
      | ok h => exact congrArg Except.ok (joined_assoc ..)

theorem ofPredicate_or_assoc (p q r : Predicate) :
    ofPredicate columns mode (.or (.or p q) r) = ofPredicate columns mode (.or p (.or q r)) := by
  simp only [ofPredicate]
  cases ofPredicate columns mode p with
  | error e => rfl
  | ok f =>
    cases ofPredicate columns mode q with
    | error e => rfl
    | ok g =>
      cases ofPredicate columns mode r with
      | error e => rfl
      | ok h => exact congrArg Except.ok (joined_assoc ..)

/-- The filter, or the error, does not tell how the predicate is grouped. -/
theorem ofPredicate_of_regrouped {p q : Predicate} (h : Regrouped p q) :
    ofPredicate columns mode p = ofPredicate columns mode q := by
  induction h with
  | refl p => rfl
  | symm _ ih => exact ih.symm
  | trans _ _ first second => exact first.trans second
  | and hl hr left right => simp only [ofPredicate, left, right, underAnd, hl.isOr, hr.isOr]
  | or _ _ left right => simp only [ofPredicate, left, right]
  | and_assoc p q r => exact ofPredicate_and_assoc columns mode p q r
  | or_assoc p q r => exact ofPredicate_or_assoc columns mode p q r

theorem ofPredicate_leftNested (p : Predicate) :
    ofPredicate columns mode p.leftNested = ofPredicate columns mode p :=
  (ofPredicate_of_regrouped columns mode p.leftNested_regrouped).symm

end RecordStore.Filter
