import RecordStore.Proofs.Predicate.Reading
import RecordStore.Statement

/-!
Predicates of one shape. Their constants differ, yet a placeholder looks the same whatever value
it stands for, so a statement that binds its values says nothing about them.
-/
namespace RecordStore

/-- Only the constants differ, and none of them is NULL in one predicate alone. -/
inductive Predicate.Alike : Predicate → Predicate → Prop
  | compare {a b : Comparison} : a.column = b.column → a.op = b.op →
      a.value.isNull = b.value.isNull → Alike (.compare a) (.compare b)
  | and {l l' r r' : Predicate} : Alike l l' → Alike r r' → Alike (.and l r) (.and l' r')
  | or {l l' r r' : Predicate} : Alike l l' → Alike r r' → Alike (.or l r) (.or l' r')

theorem Predicate.Alike.isOr {p q : Predicate} (alike : p.Alike q) : p.isOr = q.isOr := by
  cases alike <;> rfl

/-- The same text, with as many parameters. -/
structure Filter.Alike (f g : Filter) : Prop where
  text : f.text = g.text
  parameters : f.parameters.length = g.parameters.length

structure Statement.Alike (a b : Statement) : Prop where
  sql : a.sql = b.sql
  parameters : a.parameters.length = b.parameters.length

namespace Filter

variable {f f' g g' : Filter} {columns : List Column}

theorem Alike.joined (first : f.Alike f') (second : g.Alike g') (separator : String) :
    (f.joined separator g).Alike (f'.joined separator g') where
  text := by rw [Filter.joined, Filter.joined, first.text, second.text]
  parameters := by simp [Filter.joined, first.parameters, second.parameters]

theorem Alike.underAnd {p q : Predicate} (shape : p.Alike q) (alike : f.Alike f') :
    (underAnd p f).Alike (underAnd q f') := by
  rw [Filter.underAnd, Filter.underAnd, shape.isOr]
  split
  · exact ⟨by rw [parenthesized, parenthesized, alike.text], alike.parameters⟩
  · exact alike

theorem alike_ofComparison {a b : Comparison} (column : a.column = b.column) (op : a.op = b.op)
    (null : a.value.isNull = b.value.isNull) (first : ofComparison columns .bound a = .ok f)
    (second : ofComparison columns .bound b = .ok g) : f.Alike g := by
  obtain ⟨c, found, _, first⟩ := ofComparison_ok first
  obtain ⟨c', found', _, second⟩ := ofComparison_ok second
  cases Option.some.inj (found.symm.trans (column ▸ found'))
  have nulls : a.value = .null ↔ b.value = .null := by
    rw [← Literal.isNull_iff, ← Literal.isNull_iff, null]
  rcases first with ⟨isNull, isEq, rfl⟩ | ⟨isNull, isNe, rfl⟩ | ⟨some, _, rfl⟩
  · rcases second with ⟨_, _, rfl⟩ | ⟨_, isNe, rfl⟩ | ⟨some, _⟩
    · exact ⟨rfl, rfl⟩
    · cases isEq.symm.trans (op.trans isNe)
    · exact absurd (nulls.mp isNull) some
  · rcases second with ⟨_, isEq, rfl⟩ | ⟨_, _, rfl⟩ | ⟨some, _⟩
    · cases isNe.symm.trans (op.trans isEq)
    · exact ⟨rfl, rfl⟩
    · exact absurd (nulls.mp isNull) some
  · rcases second with ⟨isNull, _⟩ | ⟨isNull, _⟩ | ⟨_, _, rfl⟩
    · exact absurd (nulls.mpr isNull) some
    · exact absurd (nulls.mpr isNull) some
    · have name : (⟨c.name, []⟩ : Filter).Alike ⟨c.name, []⟩ := ⟨rfl, rfl⟩
      have operands : (operand .bound a.value).Alike (operand .bound b.value) := ⟨rfl, rfl⟩
      rw [op]
      exact name.joined operands _

/-- Bound filters of predicates of one shape differ in the values of their parameters only. -/
theorem alike_ofPredicate {p q : Predicate} (shape : p.Alike q)
    (first : ofPredicate columns .bound p = .ok f)
    (second : ofPredicate columns .bound q = .ok g) : f.Alike g := by
  induction shape generalizing f g with
  | compare column op null => exact alike_ofComparison column op null first second
  | and left right hl hr =>
    obtain ⟨l, compiledL, first⟩ := bind_eq_ok first
    obtain ⟨r, compiledR, first⟩ := bind_eq_ok first
    obtain ⟨l', compiledL', second⟩ := bind_eq_ok second
    obtain ⟨r', compiledR', second⟩ := bind_eq_ok second
    cases first
    cases second
    exact ((hl compiledL compiledL').underAnd left).joined
      ((hr compiledR compiledR').underAnd right) " AND "
  | or left right hl hr =>
    obtain ⟨l, compiledL, first⟩ := bind_eq_ok first
    obtain ⟨r, compiledR, first⟩ := bind_eq_ok first
    obtain ⟨l', compiledL', second⟩ := bind_eq_ok second
    obtain ⟨r', compiledR', second⟩ := bind_eq_ok second
    cases first
    cases second
    exact (hl compiledL compiledL').joined (hr compiledR compiledR') " OR "

theorem alike_compile {d : Descriptor} {p q : Option Predicate}
    (shape : Option.Rel Predicate.Alike p q) (first : compile p d .bound = .ok f)
    (second : compile q d .bound = .ok g) : f.Alike g := by
  cases shape with
  | none =>
    cases first
    cases second
    exact ⟨rfl, rfl⟩
  | some shape => exact alike_ofPredicate shape first second

end Filter

namespace Statement

variable {f g : Filter}

theorem alike_filtered (alike : f.Alike g) (sql : String) {values values' : List Value}
    (count : values.length = values'.length) :
    (filtered sql values f).Alike (filtered sql values' g) := by
  rw [filtered, filtered, Filter.isEmpty, Filter.isEmpty, alike.text]
  split
  · exact ⟨rfl, count⟩
  · exact ⟨rfl, by simp [count, alike.parameters]⟩

theorem length_of_checkArity {d : Descriptor} {values : List Value}
    (checked : checkArity d values = .ok ()) : values.length = d.columns.length := by
  unfold checkArity at checked
  split at checked
  · assumption
  · cases checked

theorem alike_insert {d : Descriptor} {values values' : List Value} {a b : Statement}
    (first : insert d values = .ok a) (second : insert d values' = .ok b) : a.Alike b := by
  obtain ⟨_, counted, first⟩ := bind_eq_ok first
  obtain ⟨_, counted', second⟩ := bind_eq_ok second
  cases Except.ok.inj first
  cases Except.ok.inj second
  exact ⟨rfl, (length_of_checkArity counted).trans (length_of_checkArity counted').symm⟩

end Statement

end RecordStore
