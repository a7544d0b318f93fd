import RecordStore.Proofs.Predicate.Rejections
import RecordStore.Proofs.Sql.Parameters

/-!
The two modes of one predicate. They fail alike, on the first comparison that violates a
check, and where they succeed their texts differ only in that one has a question mark where the
other has a constant.
-/
namespace RecordStore

/-! ## The first violation -/

/-- The checks that a comparison can violate. Each of them supposes those before it. -/
inductive Comparison.Violates (columns : List Column) (k : Comparison) : PredicateError → Prop
  | unknown : (∀ c ∈ columns, Schema.sameName c.name k.column = false) →
      Violates columns k (.unknownColumn k.column)
  | kind {c : Column} : c ∈ columns → Schema.sameName c.name k.column = true →
      k.value.fits c.kind = false → Violates columns k .typeMismatch
  | order {c : Column} : c ∈ columns → Schema.sameName c.name k.column = true →
      k.value = .null → k.op = .lt ∨ k.op = .gt → Violates columns k .orderAgainstNull
  | infinite {c : Column} {x : Real64} : c ∈ columns → Schema.sameName c.name k.column = true →
      k.value.fits c.kind = true → k.value = .real x → x.isFinite = false →
      Violates columns k .nonFiniteReal

/-- The error is that of the leftmost comparison that violates a check. -/
def Predicate.FirstViolates (columns : List Column) (p : Predicate) (e : PredicateError) : Prop :=
  ∃ before k after, p.comparisons = before ++ k :: after ∧
    (∀ k' ∈ before, ∀ e', ¬ k'.Violates columns e') ∧ k.Violates columns e

namespace Comparison

variable {columns : List Column} {k : Comparison} {c : Column} {e : PredicateError}

theorem filterObjection?_of_unknown (unknown : Schema.column? columns k.column = none) :
    k.filterObjection? columns = some (.unknownColumn k.column) := by
  rw [filterObjection?, objection?_of_unknown unknown, Option.some_or]

theorem filterObjection?_of_known (known : Schema.column? columns k.column = some c) :
    k.filterObjection? columns
      = if k.value.fits c.kind = false then some .typeMismatch
        else if (k.value.isNull && k.op.isOrdering) = true then some .orderAgainstNull
        else if k.value.isFinite = false then some .nonFiniteReal else none := by
  rw [filterObjection?, objection?_of_known known]
  cases k.value.fits c.kind with
  | false => rfl
  | true =>
    cases k.value.isNull && k.op.isOrdering with
    | true => rfl
    | false => cases k.value.isFinite <;> rfl

theorem Violates.objection
    (apart : columns.Pairwise fun c e => Schema.sameName e.name c.name = false)
    (violates : k.Violates columns e) : k.filterObjection? columns = some e := by
  cases violates with
  | unknown none =>
    exact filterObjection?_of_unknown (List.find?_eq_none.mpr (by simpa using none))
  | kind mem same unfit =>
    rw [filterObjection?_of_known ((Schema.column?_eq_some_iff apart).mpr ⟨mem, same⟩),
      if_pos unfit]
  | @order c mem same null op =>
    have fits : k.value.fits c.kind = true := by rw [null]; rfl
    have ordering : (k.value.isNull && k.op.isOrdering) = true := by
      rw [null, (isOrdering_iff k.op).mpr op]
      rfl
    rw [filterObjection?_of_known ((Schema.column?_eq_some_iff apart).mpr ⟨mem, same⟩), fits,
      if_neg (by decide), if_pos ordering]
  | infinite mem same fits real infinite =>
    have solid : k.value.isNull = false := by rw [real]; rfl
    have undefined : k.value.isFinite = false := by rw [real]; exact infinite
    rw [filterObjection?_of_known ((Schema.column?_eq_some_iff apart).mpr ⟨mem, same⟩), fits,
      if_neg (by decide), solid, Bool.false_and, if_neg (by decide), if_pos undefined]

theorem Violates.of_objection (objection : k.filterObjection? columns = some e) :
    k.Violates columns e := by
  cases known : Schema.column? columns k.column with
  | none =>
    rw [filterObjection?_of_unknown known] at objection
    cases Option.some.inj objection
    exact .unknown (by simpa using List.find?_eq_none.mp known)
  | some c =>
    have mem := mem_of_column? known
    have same : Schema.sameName c.name k.column = true := by simpa using List.find?_some known
    rw [filterObjection?_of_known known] at objection
    split at objection
    case isTrue unfit =>
      cases Option.some.inj objection
      exact .kind mem same unfit
    case isFalse fits =>
      split at objection
      case isTrue order =>
        cases Option.some.inj objection
        rw [Bool.and_eq_true, Literal.isNull_iff, isOrdering_iff] at order
        exact .order mem same order.1 order.2
      case isFalse =>
        split at objection
        case isTrue infinite =>
          cases Option.some.inj objection
          obtain ⟨x, real, undefined⟩ : ∃ x, k.value = .real x ∧ x.isFinite = false := by
            cases value : k.value with
            | real x => exact ⟨x, rfl, by rw [value] at infinite; exact infinite⟩
            | _ => rw [value] at infinite; cases infinite
          exact .infinite mem same (by simpa using fits) real undefined
        case isFalse => cases objection

theorem violates_iff (apart : columns.Pairwise fun c e => Schema.sameName e.name c.name = false) :
    k.Violates columns e ↔ k.filterObjection? columns = some e :=
  ⟨Violates.objection apart, Violates.of_objection⟩

end Comparison

theorem Predicate.firstViolates_iff {columns : List Column} {p : Predicate} {e : PredicateError}
    (apart : columns.Pairwise fun c e => Schema.sameName e.name c.name = false) :
    p.FirstViolates columns e ↔
      p.comparisons.findSome? (Comparison.filterObjection? columns) = some e := by
  simp only [FirstViolates, Comparison.violates_iff apart, List.findSome?_eq_some_iff,
    ← Option.eq_none_iff_forall_ne_some]
  constructor
  · rintro ⟨before, k, after, split, sound, first⟩
    exact ⟨before, k, after, split, first, sound⟩
  · rintro ⟨before, k, after, split, first, sound⟩
    exact ⟨before, k, after, split, sound, first⟩

/-! ## Texts with marks -/

/-- The text with its question marks replaced by the pieces, from the left. -/
def fillMarks : List Char → List String → List Char
  | [], _ => []
  | '?' :: cs, piece :: pieces => piece.toList ++ fillMarks cs pieces
  | c :: cs, pieces => c :: fillMarks cs pieces

theorem fillMarks_cons {c : Char} (other : c ≠ '?') (cs : List Char) (pieces : List String) :
    fillMarks (c :: cs) pieces = c :: fillMarks cs pieces := by
  simp [fillMarks, other]

theorem fillMarks_append {as : List Char} {pieces : List String}
    (marks : as.count '?' = pieces.length) (bs : List Char) (more : List String) :
    fillMarks (as ++ bs) (pieces ++ more) = fillMarks as pieces ++ fillMarks bs more := by
  induction as generalizing pieces with
  | nil =>
    cases List.length_eq_zero_iff.mp marks.symm
    rfl
  | cons c as ih =>
    by_cases mark : c = '?'
    · subst mark
      cases pieces with
      | nil => simp at marks
      | cons piece pieces =>
        have rest : as.count '?' = pieces.length := by simpa using marks
        simp [fillMarks, ih rest]
    · rw [List.count_cons_of_ne mark] at marks
      rw [List.cons_append, fillMarks_cons mark, fillMarks_cons mark, ih marks, List.cons_append]

/-- The first text is the second one with a mark in place of each of the pieces. -/
structure IsSkeleton (text filled : String) (pieces : List String) : Prop where
  marks : text.toList.count '?' = pieces.length
  fill : fillMarks text.toList pieces = filled.toList

namespace IsSkeleton

variable {s t s' t' : String} {pieces more : List String}

theorem append (first : IsSkeleton s t pieces) (second : IsSkeleton s' t' more) :
    IsSkeleton (s ++ s') (t ++ t') (pieces ++ more) where
  marks := by
    rw [String.toList_append, List.count_append, first.marks, second.marks, List.length_append]
  fill := by
    rw [String.toList_append, String.toList_append, fillMarks_append first.marks, first.fill,
      second.fill]

theorem plain (none : '?' ∉ s.toList) : IsSkeleton s s [] where
  marks := List.count_eq_zero.mpr none
  fill := by
    generalize s.toList = cs at none
    induction cs with
    | nil => rfl
    | cons c cs ih =>
      rw [List.mem_cons, not_or] at none
      rw [fillMarks_cons (Ne.symm none.1), ih none.2]

theorem mark (piece : String) : IsSkeleton "?" piece [piece] where
  marks := rfl
  fill := List.append_nil _

theorem closed (none : '?' ∉ t'.toList) (first : IsSkeleton s t pieces) :
    IsSkeleton (s ++ t') (t ++ t') pieces := by
  have whole := first.append (plain none)
  rwa [List.append_nil] at whole

end IsSkeleton

/-- The constants of a predicate other than NULL, from the left. -/
def Predicate.constants (p : Predicate) : List Literal :=
  (p.comparisons.map Comparison.value).filter fun l => !l.isNull

theorem Predicate.constants_append {l r q : Predicate}
    (comparisons : q.comparisons = l.comparisons ++ r.comparisons) :
    q.constants = l.constants ++ r.constants := by
  simp [constants, comparisons]

namespace Filter

variable {columns : List Column} {p : Predicate} {f g : Filter}

theorem isSkeleton_ofComparison {k : Comparison}
    (plain : ∀ c ∈ columns, Schema.isIdentifier c.name = true)
    (bound : ofComparison columns .bound k = .ok f)
    (inline : ofComparison columns .inline k = .ok g) :
    IsSkeleton f.text g.text ((Predicate.compare k).constants.map inlineText) := by
  obtain ⟨column, found, _, shape⟩ := ofComparison_ok bound
  obtain ⟨column', found', _, shape'⟩ := ofComparison_ok inline
  cases Option.some.inj (found.symm.trans found')
  have name : IsSkeleton column.name column.name [] :=
    .plain (Sql.not_mem_of_isIdentifier (plain column (mem_of_column? found)) (by decide))
  rcases shape with ⟨null, op, rfl⟩ | ⟨null, op, rfl⟩ | ⟨value, _, rfl⟩
  · rcases shape' with ⟨_, _, rfl⟩ | ⟨_, other, _⟩ | ⟨other, _, _⟩
    · rw [Predicate.constants, Predicate.comparisons]
      simp only [List.map_cons, List.map_nil, null]
      exact name.closed (by decide)
    · rw [op] at other
      cases other
    · exact absurd null other
  · rcases shape' with ⟨_, other, _⟩ | ⟨_, _, rfl⟩ | ⟨other, _, _⟩
    · rw [op] at other
      cases other
    · rw [Predicate.constants, Predicate.comparisons]
      simp only [List.map_cons, List.map_nil, null]
      exact name.closed (by decide)
    · exact absurd null other
  · rcases shape' with ⟨other, _, _⟩ | ⟨other, _, _⟩ | ⟨_, _, rfl⟩
    · exact absurd other value
    · exact absurd other value
    · have solid : k.value.isNull = false := by
        rw [← Bool.not_eq_true, Literal.isNull_iff]
        exact value
      have symbol : '?' ∉ s!" {k.op.symbol} ".toList := by
        cases k.op <;> decide
      have constants : (Predicate.compare k).constants = [k.value] := by
        simp [Predicate.constants, Predicate.comparisons, solid]
      rw [constants]
      exact (name.closed symbol).append (.mark (inlineText k.value))

theorem isSkeleton_underAnd (q : Predicate) {pieces : List String}
    (skeleton : IsSkeleton f.text g.text pieces) :
    IsSkeleton (underAnd q f).text (underAnd q g).text pieces := by
  unfold underAnd
  split
  · have opened : IsSkeleton ("(" ++ f.text) ("(" ++ g.text) pieces :=
      (IsSkeleton.plain (by decide)).append skeleton
    exact opened.closed (by decide)
  · exact skeleton

theorem isSkeleton_ofPredicate (plain : ∀ c ∈ columns, Schema.isIdentifier c.name = true)
    (bound : ofPredicate columns .bound p = .ok f)
    (inline : ofPredicate columns .inline p = .ok g) :
    IsSkeleton f.text g.text (p.constants.map inlineText) := by
  induction p generalizing f g with
  | compare k => exact isSkeleton_ofComparison plain bound inline
  | and l r left right =>
    obtain ⟨f₁, bound₁, bound⟩ := bind_eq_ok bound
    obtain ⟨f₂, bound₂, bound⟩ := bind_eq_ok bound
    obtain ⟨g₁, inline₁, inline⟩ := bind_eq_ok inline
    obtain ⟨g₂, inline₂, inline⟩ := bind_eq_ok inline
    cases Except.ok.inj bound
    cases Except.ok.inj inline
    have first := isSkeleton_underAnd l (left bound₁ inline₁)
    have second := isSkeleton_underAnd r (right bound₂ inline₂)
    rw [Predicate.constants_append (q := .and l r) rfl, List.map_append]
    exact (first.closed (by decide)).append second
  | or l r left right =>
    obtain ⟨f₁, bound₁, bound⟩ := bind_eq_ok bound
    obtain ⟨f₂, bound₂, bound⟩ := bind_eq_ok bound
    obtain ⟨g₁, inline₁, inline⟩ := bind_eq_ok inline
    obtain ⟨g₂, inline₂, inline⟩ := bind_eq_ok inline
    cases Except.ok.inj bound
    cases Except.ok.inj inline
    rw [Predicate.constants_append (q := .or l r) rfl, List.map_append]
    exact ((left bound₁ inline₁).closed (by decide)).append (right bound₂ inline₂)

theorem parameters_bound (bound : ofPredicate columns .bound p = .ok f) :
    f.parameters = p.constants.map Literal.toValue := by
  rw [parameters_ofPredicate bound, Predicate.carried, Predicate.constants, List.filter_map,
    List.map_map]
  rfl

theorem ofPredicate_eq_error_iff {decl : Declaration} {d : Descriptor} {mode : FilterMode}
    {e : PredicateError} (accepted : decl.describe = .ok d) :
    ofPredicate d.columns mode p = .error e ↔ p.FirstViolates d.columns e := by
  rw [← errorOf?_eq_some, Predicate.errorOf?_ofPredicate,
    Predicate.firstViolates_iff (Declaration.describe_ok accepted).apart]

theorem bound_ok_iff_inline_ok {decl : Declaration} {d : Descriptor}
    (accepted : decl.describe = .ok d) (p : Predicate) :
    (∃ f, ofPredicate d.columns .bound p = .ok f) ↔
      ∃ g, ofPredicate d.columns .inline p = .ok g := by
  -- The errors do not depend on the mode, so neither does whether there is one.
  have alike (e : PredicateError) : ofPredicate d.columns .bound p = .error e ↔
      ofPredicate d.columns .inline p = .error e := by
    rw [ofPredicate_eq_error_iff accepted, ofPredicate_eq_error_iff accepted]
  cases bound : ofPredicate d.columns .bound p with
  | error e => simp [(alike e).mp bound]
  | ok f =>
    cases inline : ofPredicate d.columns .inline p with
    | error e =>
      rw [(alike e).mpr inline] at bound
      cases bound
    | ok g => simp

/-- The two modes of a predicate differ in how its constants are given, and in nothing else. -/
theorem modes_share_skeleton {decl : Declaration} {d : Descriptor}
    (accepted : decl.describe = .ok d) (p : Predicate) :
    (∀ mode e, compile (some p) d mode = .error e ↔ p.FirstViolates d.columns e) ∧
    ((∃ f, compile (some p) d .bound = .ok f) ↔ ∃ g, compile (some p) d .inline = .ok g) ∧
    ∀ f g, compile (some p) d .bound = .ok f → compile (some p) d .inline = .ok g →
      g.parameters = [] ∧
      f.parameters = p.constants.map Literal.toValue ∧
      f.text.toList.count '?' = p.constants.length ∧
      String.ofList (fillMarks f.text.toList (p.constants.map inlineText)) = g.text := by
  refine ⟨fun mode e => ofPredicate_eq_error_iff accepted, bound_ok_iff_inline_ok accepted p,
    fun f g bound inline => ?_⟩
  have skeleton := isSkeleton_ofPredicate (Declaration.describe_ok accepted).columns bound inline
  refine ⟨parameters_ofPredicate inline, parameters_bound bound, ?_, ?_⟩
  · rw [skeleton.marks, List.length_map]
  · rw [skeleton.fill, String.ofList_toList]

/-- A question mark or a quote in a constant is no mark. -/
theorem modes_share_skeleton_marks :
    ∃ (p : Predicate) (g : Filter),
      p = .and (.or (.compareWith "description" .eq (.text "a?'b")) (.isNull "Date"))
        (.compareWith "id" .lt (.integer 7)) ∧
      compile (some p) Entry.descriptor .bound
        = .ok ⟨"(DESCRIPTION = ? OR DATE IS NULL) AND ID < ?", [.text "a?'b", .integer 7]⟩ ∧
      compile (some p) Entry.descriptor .inline = .ok g ∧ g.parameters = [] ∧
      g.text = "(DESCRIPTION = 'a?''b' OR DATE IS NULL) AND ID < '7'" := by
  have bound : compile (some (.and (.or (.compareWith "description" .eq (.text "a?'b"))
        (.isNull "Date")) (.compareWith "id" .lt (.integer 7)))) Entry.descriptor .bound
      = .ok ⟨"(DESCRIPTION = ? OR DATE IS NULL) AND ID < ?", [.text "a?'b", .integer 7]⟩ :=
    eq_ok_of_toOption (by decide)
  have shared (p : Predicate) := modes_share_skeleton Entry.describe_declaration p
  obtain ⟨g, inline⟩ := (shared _).2.1.mp ⟨_, bound⟩
  obtain ⟨none, _, _, text⟩ := (shared _).2.2 _ g bound inline
  exact ⟨_, g, rfl, bound, inline, none, text.symm.trans (by decide)⟩

end Filter

end RecordStore
