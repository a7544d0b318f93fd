import RecordStore.Store.Clause

/-!
Three truth values, and clauses. A condition is true of the same rows as its clause, and has
the same tests.
-/
namespace RecordStore

open Sql

theorem Truth.and_eq_true (a b : Truth) : a.and b = some true ↔ a = some true ∧ b = some true := by
  rcases a with _ | _ | _ <;> rcases b with _ | _ | _ <;> simp [Truth.and]

theorem Truth.or_eq_true (a b : Truth) : a.or b = some true ↔ a = some true ∨ b = some true := by
  rcases a with _ | _ | _ <;> rcases b with _ | _ | _ <;> simp [Truth.or]

theorem Truth.and_assoc (a b c : Truth) : (a.and b).and c = a.and (b.and c) := by
  rcases a with _ | _ | _ <;> rcases b with _ | _ | _ <;> rcases c with _ | _ | _ <;> rfl

theorem Truth.or_assoc (a b c : Truth) : (a.or b).or c = a.or (b.or c) := by
  rcases a with _ | _ | _ <;> rcases b with _ | _ | _ <;> rcases c with _ | _ | _ <;> rfl

namespace Sql.Condition

def tests : Condition → List Test
  | .test q => [q]
  | .and l r | .or l r => l.tests ++ r.tests

end Sql.Condition

mutual

def Term.tests : Term → List Test
  | .test t => [t]
  | .any as => Term.testsOfEach as

def Term.testsOf : List Term → List Test
  | [] => []
  | t :: ts => t.tests ++ Term.testsOf ts

def Term.testsOfEach : List (List Term) → List Test
  | [] => []
  | c :: cs => Term.testsOf c ++ Term.testsOfEach cs

end

theorem Term.mem_testsOf {q : Test} {ts : List Term} :
    q ∈ testsOf ts ↔ ∃ t ∈ ts, q ∈ t.tests := by
  induction ts with
  | nil => simp [testsOf]
  | cons t ts ih => simp [testsOf, ih]

theorem Term.mem_testsOfEach {q : Test} {cs : List Clause} :
    q ∈ testsOfEach cs ↔ ∃ c ∈ cs, q ∈ testsOf c := by
  induction cs with
  | nil => simp [testsOfEach]
  | cons c cs ih => simp [testsOfEach, ih]

theorem Term.allHold_iff {passes : Test → Bool} {ts : List Term} :
    allHold passes ts = true ↔ ∀ t ∈ ts, t.holds passes = true := by
  induction ts with
  | nil => simp [allHold]
  | cons t ts ih => simp [allHold, ih]

theorem Term.someHold_iff {passes : Test → Bool} {cs : List Clause} :
    someHold passes cs = true ↔ ∃ c ∈ cs, allHold passes c = true := by
  induction cs with
  | nil => simp [someHold]
  | cons c cs ih => simp [someHold, ih]

theorem Term.allHold_append {passes : Test → Bool} {ts us : List Term} :
    allHold passes (ts ++ us) = true ↔ allHold passes ts = true ∧ allHold passes us = true := by
  simp [allHold_iff, or_imp, forall_and]

theorem Term.someHold_append {passes : Test → Bool} {cs ds : List Clause} :
    someHold passes (cs ++ ds) = true ↔
      someHold passes cs = true ∨ someHold passes ds = true := by
  simp [someHold_iff, or_and_right, exists_or]

theorem Term.testsOf_append (ts us : List Term) :
    testsOf (ts ++ us) = testsOf ts ++ testsOf us := by
  induction ts with
  | nil => rfl
  | cons t ts ih => simp [testsOf, ih]

theorem Term.testsOfEach_append (cs ds : List Clause) :
    testsOfEach (cs ++ ds) = testsOfEach cs ++ testsOfEach ds := by
  induction cs with
  | nil => rfl
  | cons c cs ih => simp [testsOfEach, ih]

namespace Sql.Condition

/-- A condition, its clause and its alternatives are true of the same rows. -/
theorem holds_iff_clause (t : TableLayout) (parameters : List Value) (r : Row) (c : Condition) :
    (c.holds t parameters r = true ↔ c.clause.holds t parameters r = true) ∧
      (c.holds t parameters r = true ↔
        Term.someHold (Test.holds t parameters r) c.alternatives = true) := by
  induction c with
  | test q =>
    simp [clause, alternatives, Clause.holds, Term.allHold, Term.someHold, Term.holds, holds,
      truth, Test.holds]
  | and a b left right =>
    have both : (and a b).holds t parameters r = true ↔
        a.holds t parameters r = true ∧ b.holds t parameters r = true := by
      simp [holds, truth, Truth.and_eq_true]
    simp only [both, left.1, right.1, clause, alternatives, Clause.holds, Term.someHold,
      Bool.or_false, Term.allHold_append, and_self]
  | or a b left right =>
    have either : (or a b).holds t parameters r = true ↔
        a.holds t parameters r = true ∨ b.holds t parameters r = true := by
      simp [holds, truth, Truth.or_eq_true]
    simp only [either, left.2, right.2, clause, alternatives, Clause.holds, Term.allHold,
      Term.holds, Bool.and_true, Term.someHold_append, and_self]

theorem tests_clause (c : Condition) :
    Term.testsOf c.clause = c.tests ∧ Term.testsOfEach c.alternatives = c.tests := by
  induction c with
  | test q => exact ⟨rfl, rfl⟩
  | and a b left right =>
    simp [clause, alternatives, tests, Term.testsOf_append, Term.testsOfEach, left.1, right.1]
  | or a b left right =>
    simp [clause, alternatives, tests, Term.testsOf, Term.tests, Term.testsOfEach_append, left.2,
      right.2]

end Sql.Condition

end RecordStore
