import Mathlib.Data.List.Chain
import RecordStore.Proofs.Predicate.Nesting
import RecordStore.Proofs.Sql.Grammar
import RecordStore.Proofs.Sql.Scanning
import RecordStore.Store.Condition

/-!
Reading a filter back. Its text scans as the tokens of its predicate, and these have one
tree, which mirrors the predicate grouped to the left.
-/
namespace RecordStore

open Sql

def Literal.spelled : Literal → String
  | .null => "NULL"
  | .integer i => toString i.toInt
  | .real x => x.plainText
  | .text s => s
  | .date d => d.text
  | .boolean b => if b then "1" else "0"

/-- An operand that stands for a constant: a place among the values that hold it, or its
text. -/
def Carries : FilterMode → List Value → Operand → Literal → Prop
  | .bound, values, .parameter place, l => values[place]? = some l.toValue
  | .inline, _, .text content, l => content = l.spelled
  | _, _, _, _ => False

inductive Sql.Test.Mirrors (columns : List Column) (mode : FilterMode) (values : List Value) :
    Test → Comparison → Prop
  | isNull {name : ColumnName} {k : Comparison} {column : Column} :
      Schema.column? columns k.column = some column → name.name = column.name →
        k.value = .null → k.op = .eq → Mirrors columns mode values (.isNull name) k
  | isNotNull {name : ColumnName} {k : Comparison} {column : Column} :
      Schema.column? columns k.column = some column → name.name = column.name →
        k.value = .null → k.op = .ne → Mirrors columns mode values (.isNotNull name) k
  | compare {name : ColumnName} {k : Comparison} {column : Column} {v : Operand} :
      Schema.column? columns k.column = some column → name.name = column.name →
        k.value ≠ .null → Carries mode values v k.value →
          Mirrors columns mode values (.compare name k.op v) k

/-- A condition of the same shape as a predicate, whose tests mirror the comparisons. -/
inductive Sql.Condition.Mirrors (columns : List Column) (mode : FilterMode) (values : List Value) :
    Condition → Predicate → Prop
  | test {t : Test} {k : Comparison} :
      t.Mirrors columns mode values k → Mirrors columns mode values (.test t) (.compare k)
  | and {c d : Condition} {p q : Predicate} :
      Mirrors columns mode values c p → Mirrors columns mode values d q →
        Mirrors columns mode values (.and c d) (.and p q)
  | or {c d : Condition} {p q : Predicate} :
      Mirrors columns mode values c p → Mirrors columns mode values d q →
        Mirrors columns mode values (.or c d) (.or p q)

namespace Filter

def operandToken (mode : FilterMode) (l : Literal) : Token :=
  match mode with
  | .bound => .placeholder .anonymous 0
  | .inline => .text l.spelled

def comparisonTokens (mode : FilterMode) (name : String) (k : Comparison) : List Token :=
  if k.value.isNull then
    if k.op = .eq then [.word name, .word "IS", .word "NULL"]
    else [.word name, .word "IS", .word "NOT", .word "NULL"]
  else [.word name, .compare k.op, operandToken mode k.value]

def tokensUnderAnd (p : Predicate) (ts : List Token) : List Token :=
  if p.isOr then .openParen :: (ts ++ [.closeParen]) else ts

/-- The tokens of the filter of a predicate, placeholders not yet numbered. -/
def tokens (columns : List Column) (mode : FilterMode) : Predicate → List Token
  | .compare k =>
    comparisonTokens mode (((Schema.column? columns k.column).map Column.name).getD "") k
  | .and l r =>
    tokensUnderAnd l (tokens columns mode l)
      ++ .word "AND" :: tokensUnderAnd r (tokens columns mode r)
  | .or l r => tokens columns mode l ++ .word "OR" :: tokens columns mode r

end Filter

theorem inlineText_of_not_null {l : Literal} (h : l.isNull = false) :
    Filter.inlineText l = Filter.quote l.spelled := by
  cases l <;> first | rfl | cases h

theorem Literal.isNull_iff (l : Literal) : l.isNull = true ↔ l = .null := by
  cases l <;> simp [Literal.isNull]

theorem Comparison.check_ok {columns : List Column} {k : Comparison} {column : Column}
    (h : k.check columns = .ok column) :
    Schema.column? columns k.column = some column ∧ k.value.fits column.kind = true ∧
      (k.value.isNull && k.op.isOrdering) = false := by
  unfold Comparison.check at h
  split at h
  case h_2 => cases h
  case h_1 found =>
    simp only [pure, Except.pure] at h
    split at h
    · cases h
    · split at h
      · cases h
      · rename_i fits order
        cases Except.ok.inj h
        exact ⟨found, by simpa using fits, by simpa using order⟩

theorem mem_of_column? {columns : List Column} {name : String} {column : Column}
    (h : Schema.column? columns name = some column) : column ∈ columns :=
  List.mem_of_find?_eq_some h

theorem Filter.ofComparison_ok {columns : List Column} {mode : FilterMode} {k : Comparison}
    {f : Filter} (h : ofComparison columns mode k = .ok f) :
    ∃ column, Schema.column? columns k.column = some column ∧
      k.value.fits column.kind = true ∧
      ((k.value = .null ∧ k.op = .eq ∧ f = ⟨column.name ++ " IS NULL", []⟩) ∨
       (k.value = .null ∧ k.op = .ne ∧ f = ⟨column.name ++ " IS NOT NULL", []⟩) ∨
       (k.value ≠ .null ∧ k.value.isFinite = true ∧
        f = (⟨column.name, []⟩ : Filter).joined s!" {k.op.symbol} " (operand mode k.value))) := by
  obtain ⟨column, checked, h⟩ := bind_eq_ok h
  obtain ⟨found, fits, order⟩ := Comparison.check_ok checked
  refine ⟨column, found, fits, ?_⟩
  split at h
  · rename_i null
    have value := (Literal.isNull_iff k.value).mp null
    cases Except.ok.inj h
    cases op : k.op with
    | eq => exact .inl ⟨value, rfl, by simp⟩
    | ne => exact .inr (.inl ⟨value, rfl, by simp⟩)
    | lt => simp [null, op, CompareOp.isOrdering] at order
    | gt => simp [null, op, CompareOp.isOrdering] at order
  · rename_i some
    have value : k.value ≠ .null := fun null => some ((Literal.isNull_iff k.value).mpr null)
    simp only [pure, Except.pure] at h
    split at h
    · cases h
    · rename_i finite
      cases Except.ok.inj h
      exact .inr (.inr ⟨value, by simpa using finite, rfl⟩)

theorem Filter.isFinite_of_ofComparison {columns : List Column} {mode : FilterMode}
    {k : Comparison} {f : Filter} (h : ofComparison columns mode k = .ok f)
    (value : k.value ≠ .null) : k.value.isFinite = true := by
  obtain ⟨_, _, _, ⟨null, _⟩ | ⟨null, _⟩ | ⟨_, finite, _⟩⟩ := ofComparison_ok h
  · exact absurd null value
  · exact absurd null value
  · exact finite

namespace Sql.ScansAs

theorem spaced {cs ds : List Char} {ts us : List Token} (first : ScansAs cs ts)
    (second : ScansAs ds us) : ScansAs (cs ++ ' ' :: ds) (ts ++ us) :=
  first.append second.blank (parts_blank ds)

theorem keyword {name : String} (ok : Schema.isIdentifier name = true) {cs ds : List Char}
    {ts us : List Token} (first : ScansAs cs ts) (second : ScansAs ds us) :
    ScansAs (cs ++ ' ' :: (name.toList ++ ' ' :: ds)) (ts ++ .word name :: us) :=
  first.spaced ((identifier ok).spaced second)

theorem parenthesized {cs : List Char} {ts : List Token} (text : ScansAs cs ts) :
    ScansAs ('(' :: (cs ++ [')'])) (.openParen :: (ts ++ [.closeParen])) :=
  openParen (text.append closeParen (parts_cons (by decide) (by decide) (by decide)))

theorem operand (mode : FilterMode) {l : Literal} (h : l ≠ .null) :
    ScansAs (Filter.operand mode l).text.toList [Filter.operandToken mode l] := by
  cases mode with
  | bound =>
    have spelled : "?".toList = ['?'] := rfl
    simp only [Filter.operand, Filter.operandToken, spelled]
    exact placeholder
  | inline =>
    have solid : l.isNull = false := by
      rw [← Bool.not_eq_true, Literal.isNull_iff]
      exact h
    simp only [Filter.operand, Filter.operandToken, inlineText_of_not_null solid]
    exact quote l.spelled

theorem ofComparison {columns : List Column} {mode : FilterMode} {k : Comparison} {f : Filter}
    (plain : ∀ c ∈ columns, Schema.isIdentifier c.name = true)
    (h : Filter.ofComparison columns mode k = .ok f) :
    ScansAs f.text.toList (Filter.tokens columns mode (.compare k)) := by
  obtain ⟨column, found, _, shape⟩ := Filter.ofComparison_ok h
  have name : ScansAs column.name.toList [.word column.name] :=
    identifier (plain column (mem_of_column? found))
  have null : ScansAs "NULL".toList [.word "NULL"] := identifier (by decide)
  simp only [Filter.tokens, found, Option.map_some, Option.getD_some]
  rcases shape with ⟨value, op, rfl⟩ | ⟨value, op, rfl⟩ | ⟨value, _, rfl⟩
  · have spelled : (column.name ++ " IS NULL").toList
        = column.name.toList ++ ' ' :: ("IS".toList ++ ' ' :: "NULL".toList) := by simp
    simp only [Filter.comparisonTokens, value, op, Literal.isNull, if_true, spelled]
    exact name.keyword (by decide) null
  · have spelled : (column.name ++ " IS NOT NULL").toList = column.name.toList
        ++ ' ' :: ("IS".toList ++ ' ' :: ("NOT".toList ++ ' ' :: "NULL".toList)) := by simp
    have other : CompareOp.ne ≠ .eq := by decide
    simp only [Filter.comparisonTokens, value, op, Literal.isNull, if_true, spelled, if_neg other]
    exact name.keyword (by decide) ((identifier (by decide)).spaced null)
  · have solid : k.value.isNull = false := by
      rw [← Bool.not_eq_true, Literal.isNull_iff]
      exact value
    have spelled : ((⟨column.name, []⟩ : Filter).joined s!" {k.op.symbol} "
        (Filter.operand mode k.value)).text.toList = column.name.toList
          ++ ' ' :: (k.op.symbol.toList ++ ' ' :: (Filter.operand mode k.value).text.toList) := by
      simp [Filter.joined, toString]
    simp only [Filter.comparisonTokens, solid, Bool.false_eq_true, if_false, spelled]
    exact name.spaced ((symbol k.op).spaced (operand mode value))

theorem underAnd {p : Predicate} {f : Filter} {ts : List Token}
    (text : ScansAs f.text.toList ts) :
    ScansAs (Filter.underAnd p f).text.toList (Filter.tokensUnderAnd p ts) := by
  cases isOr : p.isOr with
  | false => simpa [Filter.underAnd, Filter.tokensUnderAnd, isOr] using text
  | true =>
    have spelled : f.parenthesized.text.toList = '(' :: (f.text.toList ++ [')']) := by
      simp [Filter.parenthesized]
    simp only [Filter.underAnd, Filter.tokensUnderAnd, isOr, if_true, spelled]
    exact text.parenthesized

/-- The text of a filter scans as the tokens of its predicate. -/
theorem ofPredicate {columns : List Column} {mode : FilterMode}
    (plain : ∀ c ∈ columns, Schema.isIdentifier c.name = true) {p : Predicate} {f : Filter}
    (h : Filter.ofPredicate columns mode p = .ok f) :
    ScansAs f.text.toList (Filter.tokens columns mode p) := by
  induction p generalizing f with
  | compare k => exact ofComparison plain h
  | and l r left right =>
    obtain ⟨g, hg, h⟩ := bind_eq_ok h
    obtain ⟨i, hi, h⟩ := bind_eq_ok h
    cases Except.ok.inj h
    have spelled : ((Filter.underAnd l g).joined " AND " (Filter.underAnd r i)).text.toList
        = (Filter.underAnd l g).text.toList
          ++ ' ' :: ("AND".toList ++ ' ' :: (Filter.underAnd r i).text.toList) := by
      simp [Filter.joined]
    rw [spelled]
    exact (left hg).underAnd.keyword (by decide) (right hi).underAnd
  | or l r left right =>
    obtain ⟨g, hg, h⟩ := bind_eq_ok h
    obtain ⟨i, hi, h⟩ := bind_eq_ok h
    cases Except.ok.inj h
    have spelled : (g.joined " OR " i).text.toList
        = g.text.toList ++ ' ' :: ("OR".toList ++ ' ' :: i.text.toList) := by
      simp [Filter.joined]
    rw [spelled]
    exact (left hg).keyword (by decide) (right hi)

end Sql.ScansAs

namespace Sql

def Condition.places : Condition → List Nat
  | .test (.compare _ _ (.parameter place)) => [place]
  | .test _ => []
  | .and l r | .or l r => l.places ++ r.places

/-- Tokens have the tree at the level of the outermost connective of the predicate. -/
def Reads : Predicate → List Lexeme → Condition → Prop
  | .compare _ => IsPrimary
  | .and _ _ => IsConjunction
  | .or _ _ => IsCondition

namespace Reads

variable {p : Predicate} {ls : List Lexeme} {c : Condition}

theorem condition (h : Reads p ls c) : IsCondition ls c := by
  cases p with
  | compare k => exact .conjunction (.primary h)
  | and l r => exact .conjunction h
  | or l r => exact h

theorem conjunction (h : Reads p ls c) (notOr : p.isOr = false) : IsConjunction ls c := by
  cases p with
  | compare k => exact .primary h
  | and l r => exact h
  | or l r => cases notOr

theorem primary (h : Reads p ls c) (notOr : p.isOr = false) (notAnd : p.isAnd = false) :
    IsPrimary ls c := by
  cases p with
  | compare k => exact h
  | and l r => cases notAnd
  | or l r => cases notOr

end Reads

/-- The word that begins a query. -/
def Token.isWith : Token → Bool
  | .word name => Schema.sameName name "WITH"
  | _ => false

/-- Behind an opening parenthesis no query begins. -/
def Token.OpensNoQuery (t u : Token) : Prop := t = .openParen → u.isWith = false

theorem isKeyword_with (l : Lexeme) : l.isKeyword "WITH" = l.token.isWith := by
  unfold Lexeme.isKeyword Token.isWith
  split <;> simp_all

theorem isChain_numbered (seen : List Marker) (ts : List Token) :
    (numbered seen ts).IsChain Token.OpensNoQuery ↔ ts.IsChain Token.OpensNoQuery := by
  have head (seen : List Marker) (us : List Token) :
      (∀ u ∈ (numbered seen us).head?, u.isWith = false) ↔ ∀ u ∈ us.head?, u.isWith = false := by
    cases us with
    | nil => rfl
    | cons u us => cases u <;> simp [numbered, Token.isWith]
  induction ts generalizing seen with
  | nil => rfl
  | cons t ts ih =>
    cases t with
    | openParen =>
      simp only [numbered, List.isChain_cons, ih, Token.OpensNoQuery, forall_const, head]
    | _ => simp [numbered, List.isChain_cons, ih, Token.OpensNoQuery]

theorem noQuery_of_isChain {l : Lexeme} {ls : List Lexeme} (opens : l.token = .openParen)
    (plain : ((l :: ls).map Lexeme.token).IsChain Token.OpensNoQuery) : NoQuery ls := by
  intro m first
  rw [isKeyword_with]
  refine (List.isChain_cons.mp plain).1 m.token ?_ opens
  simpa using ⟨m, first, rfl⟩

theorem reads_underAnd {p : Predicate} {seen : List Marker} {ts : List Token}
    (plain : (Filter.tokensUnderAnd p ts).IsChain Token.OpensNoQuery) {Q : Condition → Prop}
    (reads : ∀ ls, ls.map Lexeme.token = numbered seen ts → ∃ c, Reads p ls c ∧ Q c)
    {ls : List Lexeme}
    (spelled : ls.map Lexeme.token = numbered seen (Filter.tokensUnderAnd p ts)) :
    ∃ c, IsConjunction ls c ∧ (p.isAnd = false → IsPrimary ls c) ∧ Q c := by
  cases isOr : p.isOr with
  | false =>
    simp only [Filter.tokensUnderAnd, isOr, Bool.false_eq_true, if_false] at spelled
    obtain ⟨c, tree, holds⟩ := reads ls spelled
    exact ⟨c, tree.conjunction isOr, tree.primary isOr, holds⟩
  | true =>
    have chain := (isChain_numbered seen _).mpr plain
    rw [← spelled] at chain
    simp only [Filter.tokensUnderAnd, isOr, if_true, numbered, numbered_append,
      List.map_eq_cons_iff, List.map_eq_append_iff] at spelled
    obtain ⟨l, _, rfl, opens, ms, _, rfl, middle, m, _, rfl, closes, last⟩ := spelled
    cases List.map_eq_nil_iff.mp last
    obtain ⟨c, tree, holds⟩ := reads ms middle
    have noQuery := (noQuery_of_isChain opens chain).of_append tree.condition.ne_nil
    have primary : IsPrimary (l :: (ms ++ [m])) c :=
      .parentheses opens noQuery tree.condition closes
    exact ⟨c, .primary primary, fun _ => primary, holds⟩

end Sql

theorem Filter.underAnd_parameters (p : Predicate) (f : Filter) :
    (underAnd p f).parameters = f.parameters := by
  unfold underAnd
  split <;> rfl

theorem Sql.markersAfter_tokensUnderAnd (p : Predicate) (seen : List Marker)
    (ts : List Token) :
    markersAfter seen (Filter.tokensUnderAnd p ts) = markersAfter seen ts := by
  unfold Filter.tokensUnderAnd
  split
  · simp [markersAfter, markersAfter_append]
  · rfl

theorem length_markersAfter_tokens {columns : List Column} {mode : FilterMode}
    {p : Predicate} {f : Filter} (h : Filter.ofPredicate columns mode p = .ok f)
    (seen : List Marker) :
    (markersAfter seen (Filter.tokens columns mode p)).length
      = seen.length + f.parameters.length := by
  induction p generalizing f seen with
  | compare k =>
    obtain ⟨column, found, _, shape⟩ := Filter.ofComparison_ok h
    rcases shape with ⟨value, op, rfl⟩ | ⟨value, op, rfl⟩ | ⟨value, _, rfl⟩
    · simp [Filter.tokens, Filter.comparisonTokens, value, op, Literal.isNull, markersAfter]
    · simp [Filter.tokens, Filter.comparisonTokens, value, op, Literal.isNull, markersAfter]
    · have solid : k.value.isNull = false := by
        rw [← Bool.not_eq_true, Literal.isNull_iff]
        exact value
      cases mode <;> simp [Filter.tokens, Filter.comparisonTokens, solid, Filter.operandToken,
        markersAfter, addMarker, Filter.joined, Filter.operand]
  | and l r left right =>
    obtain ⟨g, hg, h⟩ := bind_eq_ok h
    obtain ⟨i, hi, h⟩ := bind_eq_ok h
    cases Except.ok.inj h
    simp only [Filter.tokens, markersAfter_append, markersAfter_tokensUnderAnd, markersAfter,
      right hi, left hg, Filter.joined, Filter.underAnd_parameters, List.length_append]
    omega
  | or l r left right =>
    obtain ⟨g, hg, h⟩ := bind_eq_ok h
    obtain ⟨i, hi, h⟩ := bind_eq_ok h
    cases Except.ok.inj h
    simp only [Filter.tokens, markersAfter_append, markersAfter, right hi, left hg,
      Filter.joined, List.length_append]
    omega

/-- The columns that are asked for are read as columns, and no parenthesis as that of a query. -/
structure Predicate.UsesFree (columns : List Column) (mode : FilterMode) (p : Predicate) :
    Prop where
  names : ∀ k ∈ p.comparisons, ∀ column, Schema.column? columns k.column = some column →
    ∀ l : Lexeme, l.token = .word column.name → IsColumn l ⟨column.name, l.offset⟩
  groups : (Filter.tokens columns mode p).IsChain Token.OpensNoQuery

namespace Predicate.UsesFree

variable {columns : List Column} {mode : FilterMode} {l r : Predicate}

theorem groups_of_underAnd {p : Predicate} {ts : List Token}
    (plain : (Filter.tokensUnderAnd p ts).IsChain Token.OpensNoQuery) :
    ts.IsChain Token.OpensNoQuery := by
  unfold Filter.tokensUnderAnd at plain
  split at plain
  · exact plain.tail.left_of_append
  · exact plain

theorem under_or (free : (Predicate.or l r).UsesFree columns mode) :
    l.UsesFree columns mode ∧ r.UsesFree columns mode := by
  obtain ⟨names, groups⟩ := free
  refine ⟨⟨fun k mem => names k (List.mem_append_left _ mem), groups.left_of_append⟩,
    fun k mem => names k (List.mem_append_right _ mem), groups.right_of_append.tail⟩

theorem under_and (free : (Predicate.and l r).UsesFree columns mode) :
    l.UsesFree columns mode ∧ r.UsesFree columns mode ∧
      (Filter.tokensUnderAnd l (Filter.tokens columns mode l)).IsChain Token.OpensNoQuery ∧
      (Filter.tokensUnderAnd r (Filter.tokens columns mode r)).IsChain Token.OpensNoQuery := by
  obtain ⟨names, groups⟩ := free
  have left := groups.left_of_append
  have right := groups.right_of_append.tail
  exact ⟨⟨fun k mem => names k (List.mem_append_left _ mem), groups_of_underAnd left⟩,
    ⟨fun k mem => names k (List.mem_append_right _ mem), groups_of_underAnd right⟩, left, right⟩

end Predicate.UsesFree

theorem Sql.isReserved_eq_false {name : String} (free : isReserved name = false) :
    isKeyword name = false ∧ termWords.any (Schema.sameName name) = false ∧
      clockWords.any (Schema.sameName name) = false ∧
      ["WITH"].any (Schema.sameName name) = false := by
  simp only [isReserved, List.any_append, Bool.or_eq_false_iff] at free
  obtain ⟨keyword, ⟨term, clock⟩, query⟩ := free
  exact ⟨keyword, term, clock, query⟩

theorem Sql.isColumn_of_free {l : Lexeme} {name : String} (word : l.token = .word name)
    (free : isReserved name = false) : IsColumn l ⟨name, l.offset⟩ := by
  obtain ⟨keyword, term, clock, _⟩ := isReserved_eq_false free
  exact ⟨.mk word keyword, term, clock⟩

theorem Filter.isWith_comparisonTokens {name : String} (free : (Token.word name).isWith = false)
    (mode : FilterMode) (k : Comparison) :
    ∀ t ∈ comparisonTokens mode name k, t.isWith = false := by
  have operand : (operandToken mode k.value).isWith = false := by cases mode <;> rfl
  unfold comparisonTokens
  split
  · split
    · simpa [free] using ⟨by decide, by decide⟩
    · simpa [free] using ⟨by decide, by decide, by decide⟩
  · simpa [free] using ⟨rfl, operand⟩

theorem Filter.isWith_tokensUnderAnd {p : Predicate} {ts : List Token}
    (inner : ∀ t ∈ ts, t.isWith = false) : ∀ t ∈ tokensUnderAnd p ts, t.isWith = false := by
  unfold tokensUnderAnd
  split
  · intro t mem
    simp only [List.mem_cons, List.mem_append, List.not_mem_nil, or_false] at mem
    rcases mem with rfl | mem | rfl
    · rfl
    · exact inner t mem
    · rfl
  · exact inner

theorem Filter.isWith_of_mem_tokens {columns : List Column}
    (free : ∀ c ∈ columns, isReserved c.name = false) {mode : FilterMode} {p : Predicate}
    {t : Token} (mem : t ∈ tokens columns mode p) : t.isWith = false := by
  induction p generalizing t with
  | compare k =>
    refine isWith_comparisonTokens ?_ mode k t mem
    cases found : Schema.column? columns k.column with
    | none => decide
    | some column =>
      obtain ⟨_, _, _, query⟩ := isReserved_eq_false (free column (mem_of_column? found))
      simpa [Token.isWith] using query
  | and l r left right =>
    rw [tokens, List.mem_append, List.mem_cons] at mem
    rcases mem with mem | rfl | mem
    · exact isWith_tokensUnderAnd (fun _ => left) t mem
    · decide
    · exact isWith_tokensUnderAnd (fun _ => right) t mem
  | or l r left right =>
    rw [tokens, List.mem_append, List.mem_cons] at mem
    rcases mem with mem | rfl | mem
    · exact left mem
    · decide
    · exact right mem

theorem Predicate.usesFree_of_free {columns : List Column}
    (free : ∀ c ∈ columns, isReserved c.name = false) {mode : FilterMode} (p : Predicate) :
    p.UsesFree columns mode where
  names _ _ column found _ word := isColumn_of_free word (free column (mem_of_column? found))
  groups := List.isChain_iff_getElem.mpr fun _ _ _ =>
    Filter.isWith_of_mem_tokens free (List.getElem_mem _)

theorem Filter.tokens_of_regrouped {columns : List Column} {mode : FilterMode} {p q : Predicate}
    (h : p.Regrouped q) : tokens columns mode p = tokens columns mode q := by
  induction h with
  | refl p => rfl
  | symm _ ih => exact ih.symm
  | trans _ _ first second => exact first.trans second
  | and hl hr left right => simp only [tokens, tokensUnderAnd, left, right, hl.isOr, hr.isOr]
  | or _ _ left right => simp only [tokens, left, right]
  | and_assoc p q r => simp [tokens, tokensUnderAnd, Predicate.isOr]
  | or_assoc p q r => simp [tokens]

theorem Predicate.UsesFree.leftNested {columns : List Column} {mode : FilterMode} {p : Predicate}
    (free : p.UsesFree columns mode) : p.leftNested.UsesFree columns mode where
  names := p.leftNested_regrouped.comparisons ▸ free.names
  groups := Filter.tokens_of_regrouped p.leftNested_regrouped ▸ free.groups

section

variable {columns : List Column} {mode : FilterMode} {seen : List Marker} {ls : List Lexeme}
  {before : List Value}

theorem isOperand_of_token {l : Lexeme} {v : Literal}
    (spelled : [l.token] = numbered seen [Filter.operandToken mode v])
    (level : before.length = seen.length) (after : List Value) :
    ∃ o, IsOperand l o ∧
      Carries mode (before ++ (Filter.operand mode v).parameters ++ after) o v ∧
      ∀ c op, (Condition.test (.compare c op o)).places
        = List.range' seen.length (Filter.operand mode v).parameters.length := by
  cases mode with
  | bound =>
    have token : l.token = .placeholder .anonymous seen.length :=
      List.head_eq_of_cons_eq spelled
    refine ⟨.parameter seen.length, .parameter token, ?_, fun _ _ => rfl⟩
    simp [Carries, Filter.operand, ← level]
  | inline =>
    have token : l.token = .text v.spelled := List.head_eq_of_cons_eq spelled
    exact ⟨.text v.spelled, .text token, rfl, fun _ _ => rfl⟩

theorem isTest_of_tokens {k : Comparison} (free : (Predicate.compare k).UsesFree columns mode)
    {f : Filter} (h : Filter.ofComparison columns mode k = .ok f)
    (spelled : ls.map Lexeme.token = numbered seen (Filter.tokens columns mode (.compare k)))
    (level : before.length = seen.length) (after : List Value) :
    ∃ t, IsTest ls t ∧ t.Mirrors columns mode (before ++ f.parameters ++ after) k ∧
      (Condition.test t).places = List.range' seen.length f.parameters.length := by
  obtain ⟨column, found, _, shape⟩ := Filter.ofComparison_ok h
  have name := free.names k (List.mem_singleton_self k) column found
  simp only [Filter.tokens, found, Option.map_some, Option.getD_some] at spelled
  rcases shape with ⟨value, op, rfl⟩ | ⟨value, op, rfl⟩ | ⟨value, _, rfl⟩
  · simp only [Filter.comparisonTokens, value, op, Literal.isNull, if_true, numbered,
      List.map_eq_cons_iff] at spelled
    obtain ⟨l, _, rfl, hl, m, _, rfl, hm, n, _, rfl, hn, last⟩ := spelled
    cases List.map_eq_nil_iff.mp last
    exact ⟨_, .isNull (name l hl) (isKeyword_of_word hm) (isKeyword_of_word hn),
      .isNull found rfl value op, rfl⟩
  · have other : CompareOp.ne ≠ .eq := by decide
    simp only [Filter.comparisonTokens, value, op, Literal.isNull, if_true, if_neg other,
      numbered, List.map_eq_cons_iff] at spelled
    obtain ⟨l, _, rfl, hl, m, _, rfl, hm, n, _, rfl, hn, o, _, rfl, ho, last⟩ := spelled
    cases List.map_eq_nil_iff.mp last
    exact ⟨_, .isNotNull (name l hl) (isKeyword_of_word hm) (isKeyword_of_word hn)
      (isKeyword_of_word ho), .isNotNull found rfl value op, rfl⟩
  · have solid : k.value.isNull = false := by
      rw [← Bool.not_eq_true, Literal.isNull_iff]
      exact value
    have tokens : Filter.comparisonTokens mode column.name k
        = [.word column.name, .compare k.op] ++ [Filter.operandToken mode k.value] := by
      simp [Filter.comparisonTokens, solid]
    rw [tokens, numbered_append, List.map_eq_append_iff] at spelled
    obtain ⟨front, back, rfl, hf, hb⟩ := spelled
    simp only [numbered, List.map_eq_cons_iff] at hf
    obtain ⟨l, _, rfl, hl, m, _, rfl, hm, last⟩ := hf
    cases List.map_eq_nil_iff.mp last
    obtain ⟨n, rfl⟩ : ∃ n, back = [n] := by
      have size := congrArg List.length hb
      cases mode <;> simpa [Filter.operandToken, numbered, List.length_eq_one_iff] using size
    obtain ⟨o, operand, carries, places⟩ := isOperand_of_token hb level after
    exact ⟨_, .compare (name l hl) hm operand, .compare found rfl value carries, places _ _⟩

/-- The tokens of a predicate that is grouped to the left have a tree that mirrors it. -/
theorem reads_of_tokens {p : Predicate} (free : p.UsesFree columns mode)
    (nested : p.IsLeftNested) {f : Filter} (h : Filter.ofPredicate columns mode p = .ok f)
    (spelled : ls.map Lexeme.token = numbered seen (Filter.tokens columns mode p))
    (level : before.length = seen.length) (after : List Value) :
    ∃ c, Reads p ls c ∧ c.Mirrors columns mode (before ++ f.parameters ++ after) p ∧
      c.places = List.range' seen.length f.parameters.length := by
  induction p generalizing f seen ls before after with
  | compare k =>
    obtain ⟨t, tree, mirrors, places⟩ := isTest_of_tokens free h spelled level after
    exact ⟨.test t, .test tree, .test mirrors, places⟩
  | and l r left right =>
    obtain ⟨g, hg, h⟩ := bind_eq_ok h
    obtain ⟨i, hi, h⟩ := bind_eq_ok h
    cases Except.ok.inj h
    have counted := length_markersAfter_tokens hg seen
    rw [← markersAfter_tokensUnderAnd l] at counted
    rw [Filter.tokens, numbered_append, List.map_eq_append_iff] at spelled
    obtain ⟨front, back, rfl, hf, hb⟩ := spelled
    simp only [numbered, List.map_eq_cons_iff] at hb
    obtain ⟨m, back, rfl, hm, hb⟩ := hb
    have behind : (before ++ g.parameters).length
        = (markersAfter seen (Filter.tokensUnderAnd l (Filter.tokens columns mode l))).length := by
      rw [counted, List.length_append, level]
    obtain ⟨freeL, freeR, plainL, plainR⟩ := free.under_and
    obtain ⟨c, treeL, _, mirrorsL, placesL⟩ := reads_underAnd plainL
      (fun ms hms => left freeL nested.1 hg hms level (i.parameters ++ after)) hf
    obtain ⟨d, _, treeR, mirrorsR, placesR⟩ := reads_underAnd plainR
      (fun ms hms => right freeR nested.2.1 hi hms behind after) hb
    refine ⟨.and c d, .and treeL (isKeyword_of_word hm) (treeR nested.2.2), ?_, ?_⟩
    · simp only [Filter.joined, Filter.underAnd_parameters, List.append_assoc]
        at mirrorsL mirrorsR ⊢
      exact .and mirrorsL mirrorsR
    · simp only [Condition.places, Filter.joined, Filter.underAnd_parameters,
        List.length_append, placesL, placesR, counted]
      rw [List.range'_append_1]
  | or l r left right =>
    obtain ⟨g, hg, h⟩ := bind_eq_ok h
    obtain ⟨i, hi, h⟩ := bind_eq_ok h
    cases Except.ok.inj h
    have counted := length_markersAfter_tokens hg seen
    rw [Filter.tokens, numbered_append, List.map_eq_append_iff] at spelled
    obtain ⟨front, back, rfl, hf, hb⟩ := spelled
    simp only [numbered, List.map_eq_cons_iff] at hb
    obtain ⟨m, back, rfl, hm, hb⟩ := hb
    have behind : (before ++ g.parameters).length
        = (markersAfter seen (Filter.tokens columns mode l)).length := by
      rw [counted, List.length_append, level]
    obtain ⟨freeL, freeR⟩ := free.under_or
    obtain ⟨c, treeL, mirrorsL, placesL⟩ :=
      left freeL nested.1 hg hf level (i.parameters ++ after)
    obtain ⟨d, treeR, mirrorsR, placesR⟩ := right freeR nested.2.1 hi hb behind after
    refine ⟨.or c d, .or treeL.condition (isKeyword_of_word hm)
      (treeR.conjunction nested.2.2), ?_, ?_⟩
    · simp only [Filter.joined, List.append_assoc] at mirrorsL mirrorsR ⊢
      exact .or mirrorsL mirrorsR
    · simp only [Condition.places, Filter.joined, List.length_append, placesL, placesR, counted]
      rw [List.range'_append_1]

end

end RecordStore
