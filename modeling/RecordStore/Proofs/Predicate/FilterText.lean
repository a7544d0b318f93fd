import RecordStore.Predicate.Match
import RecordStore.Proofs.Predicate.Reading
import RecordStore.Proofs.Schema
import RecordStore.Proofs.Store.Clauses
import RecordStore.Record

/-!
The text of a filter means its predicate: read by the grammar it has one tree, which is the
predicate up to grouping, and which is true under three truth values exactly when the
predicate is true under two.
-/
namespace RecordStore

open Sql

/-- The truth of the condition, where the test at a place, counted from the left, has the
given truth. -/
def Sql.Condition.truthUnder (truth : Nat → Truth) : Nat → Condition → Truth
  | place, .test _ => truth place
  | place, .and l r => (l.truthUnder truth place).and (r.truthUnder truth (place + l.tests.length))
  | place, .or l r => (l.truthUnder truth place).or (r.truthUnder truth (place + l.tests.length))

section

variable {columns : List Column} {mode : FilterMode} {values : List Value} {c : Condition}
  {p : Predicate}

theorem Sql.Condition.Mirrors.length_tests (same : c.Mirrors columns mode values p) :
    c.tests.length = p.comparisons.length := by
  induction same with
  | test _ => rfl
  | and _ _ left right | or _ _ left right =>
    simp [Condition.tests, Predicate.comparisons, left, right]

theorem Sql.Condition.Mirrors.truthUnder (same : c.Mirrors columns mode values p)
    (truth : Nat → Truth) (place : Nat) :
    c.truthUnder truth place = some true ↔
      p.valueUnder (fun n => truth n == some true) place = true := by
  induction same generalizing place with
  | test _ => simp [Condition.truthUnder, Predicate.valueUnder]
  | and hl _ left right =>
    simp [Condition.truthUnder, Predicate.valueUnder, Truth.and_eq_true, left, right,
      hl.length_tests]
  | or hl _ left right =>
    simp [Condition.truthUnder, Predicate.valueUnder, Truth.or_eq_true, left, right,
      hl.length_tests]

end

theorem Predicate.holds_eq_valueUnder {columns : List Column} {values : List Value}
    {p : Predicate} {truth : Nat → Bool} {place : Nat}
    (each : ∀ (n : Nat) (k : Comparison), p.comparisons[n]? = some k →
      k.holds columns values = .ok (truth (place + n))) :
    p.holds columns values = .ok (p.valueUnder truth place) := by
  induction p generalizing place with
  | compare k => exact each 0 k rfl
  | and l r left right | or l r left right =>
    have first : l.holds columns values = .ok (l.valueUnder truth place) :=
      left fun n k hk => each n k <| by
        rw [Predicate.comparisons,
          List.getElem?_append_left (List.getElem?_eq_some_iff.mp hk).1, hk]
    have second : r.holds columns values
        = .ok (r.valueUnder truth (place + l.comparisons.length)) :=
      right fun n k hk => by
        rw [Nat.add_assoc]
        exact each (l.comparisons.length + n) k <| by
          rw [Predicate.comparisons, List.getElem?_append_right (Nat.le_add_right ..),
            Nat.add_sub_cancel_left, hk]
    simp only [Predicate.holds, first, second, ok_bind]
    rfl

/-- Reading the text of a filter gives back the predicate, up to the grouping of nested
ANDs and nested ORs, and nothing else. -/
theorem Filter.text_reads_back {decl : Declaration} {d : Descriptor} {mode : FilterMode}
    {p : Predicate} {f : Filter} (accepted : decl.describe = .ok d)
    (free : ∀ c ∈ d.columns, isReserved c.name = false)
    (compiled : Filter.compile (some p) d mode = .ok f) :
    ∃ c q, IsCondition (lexemes f.text) c ∧ (∀ c', IsCondition (lexemes f.text) c' → c' = c) ∧
      Condition.read (lexemes f.text) = .ok (c, []) ∧
      p.Regrouped q ∧ c.Mirrors d.columns mode f.parameters q ∧
      c.places = List.range f.parameters.length ∧
      (∀ truth : Nat → Truth, c.truthUnder truth 0 = some true ↔
        p.valueUnder (fun n => truth n == some true) 0 = true) ∧
      (∀ (values : List Value) (truth : Nat → Truth),
        (∀ (n : Nat) (k : Comparison), p.comparisons[n]? = some k →
          k.holds d.columns values = .ok (truth n == some true)) →
        (c.truthUnder truth 0 = some true ↔ p.holds d.columns values = .ok true)) ∧
      ('\x00' ∉ f.text.toList → scan f.text = lexemes f.text) := by
  have regrouped := p.leftNested_regrouped
  have nested : Filter.ofPredicate d.columns mode p.leftNested = .ok f := by
    rw [Filter.ofPredicate_leftNested]
    exact compiled
  have isOf := Declaration.describe_ok accepted
  have spelled := token_lexemes (ScansAs.ofPredicate isOf.columns nested)
  have level : ([] : List Value).length = ([] : List Marker).length := rfl
  obtain ⟨c, tree, mirrors, places⟩ :=
    reads_of_tokens (p.leftNested.usesFree_of_free free) p.leftNested_isLeftNested nested spelled
      level []
  simp only [List.nil_append, List.append_nil] at mirrors
  have meaning (truth : Nat → Truth) : c.truthUnder truth 0 = some true ↔
      p.valueUnder (fun n => truth n == some true) 0 = true := by
    rw [mirrors.truthUnder truth 0, regrouped.valueUnder]
  have read := read_of_isCondition tree.condition (stops_nil "AND") (stops_nil "OR")
  rw [List.append_nil] at read
  refine ⟨c, p.leftNested, tree.condition, fun c' other => other.unique tree.condition, read,
    regrouped, mirrors, ?_, meaning, ?_, scan_eq_lexemes⟩
  · rw [places, List.range_eq_range']
    rfl
  · intro values truth each
    have value : p.holds d.columns values
        = .ok (p.valueUnder (fun n => truth n == some true) 0) :=
      Predicate.holds_eq_valueUnder fun n k hk => by
        rw [Nat.zero_add]
        exact each n k hk
    rw [meaning, value]
    simp

theorem Filter.text_reads_back_injection :
    ∃ c q, IsCondition
        (lexemes "DESCRIPTION = 'x'' OR (''1'' = ''1' AND (DATE IS NULL OR ID < '7')") c ∧
      (Predicate.and (.compareWith "description" .eq (.text "x' OR ('1' = '1"))
        (.or (.isNull "Date") (.compareWith "id" .lt (.integer 7)))).Regrouped q ∧
      c.Mirrors Entry.declaration.columns .inline [] q := by
  have accepted : Entry.declaration.describe
      = .ok ⟨"EntryRecord", "ENTRIES", Entry.declaration.columns⟩ :=
    eq_ok_of_toOption (by decide)
  have compiled : Filter.compile
      (some (.and (.compareWith "description" .eq (.text "x' OR ('1' = '1"))
        (.or (.isNull "Date") (.compareWith "id" .lt (.integer 7)))))
      ⟨"EntryRecord", "ENTRIES", Entry.declaration.columns⟩ .inline
      = .ok ⟨"DESCRIPTION = 'x'' OR (''1'' = ''1' AND (DATE IS NULL OR ID < '7')", []⟩ :=
    eq_ok_of_toOption (by decide)
  have free : ∀ c ∈ Entry.declaration.columns, isReserved c.name = false := by decide
  obtain ⟨c, q, tree, _, _, regrouped, mirrors, _⟩ :=
    Filter.text_reads_back accepted free compiled
  exact ⟨c, q, tree, regrouped, mirrors⟩

end RecordStore
