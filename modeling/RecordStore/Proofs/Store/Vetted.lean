import RecordStore.Proofs.Sql.Blindness
import RecordStore.Proofs.Sql.Parameters

/-!
What the engine makes of a text before it runs it. It comes to the same for two statements that
differ in their constants only, unless the engine quotes one of the texts in its answer. It can
only quote a constant that is a part of the text.
-/
namespace RecordStore

open Sql

/-! ## Answers that quote a text -/

def StoreError.quotesText : StoreError → Bool
  | .located _ _ _ => true
  | _ => false

def Quotes {α : Type} (x : Except StoreError α) : Prop := ∃ e, x = .error e ∧ e.quotesText = true

/-- Both are the same answer, unless a text is quoted in one of them. -/
inductive SameUnlessQuoted {α : Type} (x y : Except StoreError α) : Prop
  | same : x = y → SameUnlessQuoted x y
  | left : Quotes x → SameUnlessQuoted x y
  | right : Quotes y → SameUnlessQuoted x y

section

variable {α β : Type} {x y : Except StoreError α}

theorem Quotes.bind (quotes : Quotes x) (f : α → Except StoreError β) : Quotes (x >>= f) := by
  obtain ⟨e, rfl, quoted⟩ := quotes
  exact ⟨e, rfl, quoted⟩

theorem SameUnlessQuoted.bind {f g : α → Except StoreError β} (first : SameUnlessQuoted x y)
    (next : ∀ a, SameUnlessQuoted (f a) (g a)) : SameUnlessQuoted (x >>= f) (y >>= g) := by
  cases first with
  | same equal =>
    subst equal
    cases x with
    | error e => exact .same rfl
    | ok a => exact next a
  | left quotes => exact .left (quotes.bind f)
  | right quotes => exact .right (quotes.bind g)

end

/-! ## Commands that differ in quotes only -/

namespace Sql

variable {t : TableLayout}

theorem Condition.Alike.isSome_unknownColumn? {c d : Condition} (alike : c.Alike d)
    (t : TableLayout) : (c.unknownColumn? t).isSome = (d.unknownColumn? t).isSome := by
  induction alike with
  | @test q q' test =>
    have name : q.column.name = q'.column.name := test.column
    rw [Condition.unknownColumn?, Condition.unknownColumn?, name]
    split <;> rfl
  | and _ _ left right | or _ _ left right =>
    simp only [Condition.unknownColumn?, Option.isSome_or, left, right]

theorem Condition.Alike.asksForKey {c d : Condition} (alike : c.Alike d) (t : TableLayout) :
    c.asksForKey t = d.asksForKey t := by
  induction alike with
  | test test =>
    cases test with
    | compare op v w name =>
      cases op with
      | eq => rw [Condition.asksForKey, Condition.asksForKey, name]
      | ne | lt | gt => rfl
    | isNull | isNotNull => rfl
  | and _ _ left right => rw [Condition.asksForKey, Condition.asksForKey, left, right]
  | or => rfl

namespace Command

/-- Only the names count of what is assigned, and whether the filter asks for the key. -/
theorem isJournaled_congr {cs ds : List ColumnName} {f g : Option Condition}
    (names : cs.map ColumnName.name = ds.map ColumnName.name)
    (asks : f.any (·.asksForKey t) = g.any (·.asksForKey t)) (enforced : Bool) (tables : Tables) :
    Work.isJournaled enforced tables t cs f = Work.isJournaled enforced tables t ds g := by
  have assigned (place : ColumnPlace) : (cs.any fun c => t.place? c.name == some place)
      = ds.any fun c => t.place? c.name == some place := by
    have named (es : List ColumnName) : (es.any fun c => t.place? c.name == some place)
        = (es.map ColumnName.name).any fun n => t.place? n == some place := by
      rw [List.any_map]
      rfl
    rw [named, named, names]
  simp only [Work.isJournaled, assigned, asks]

theorem Alike.isJournaled {c d : Command} (alike : c.Alike d) (enforced : Bool) (tables : Tables)
    (t : TableLayout) :
    c.isJournaled enforced tables t = d.isJournaled enforced tables t := by
  cases alike with
  | @update as bs f g table assignments filter =>
    apply isJournaled_congr
    · induction assignments with
      | nil => rfl
      | cons name _ ih => exact congrArg₂ List.cons name ih
    · cases filter with
      | none => rfl
      | some tree => exact tree.asksForKey t
  | select | insert | delete => rfl
  | rowless => rfl

theorem alike_checkFilter {f g : Option Condition} (alike : Option.Rel Condition.Alike f g)
    (sql sql' : String) (t : TableLayout) :
    SameUnlessQuoted (checkFilter sql t f) (checkFilter sql' t g) := by
  cases alike with
  | none => exact .same rfl
  | @some c d tree =>
    have unknown := tree.isSome_unknownColumn? t
    simp only [checkFilter, Option.bind_some]
    cases first : c.unknownColumn? t with
    | none =>
      rw [first, Option.isSome_none, eq_comm, Option.isSome_eq_false_iff, Option.isNone_iff_eq_none]
        at unknown
      rw [unknown]
      exact .same rfl
    | some column => exact .left ⟨_, rfl, rfl⟩

theorem alike_checkColumns {cs ds : List ColumnName} (alike : List.Forall₂ ColumnName.Alike cs ds)
    (sql sql' : String) (t : TableLayout) :
    SameUnlessQuoted (cs.forM (checkColumn sql t)) (ds.forM (checkColumn sql' t)) := by
  induction alike with
  | nil => exact .same rfl
  | @cons c d _ _ name _ ih =>
    have name : c.name = d.name := name
    refine SameUnlessQuoted.bind ?_ fun _ => ih
    rw [checkColumn, checkColumn, name]
    split
    · exact .same rfl
    · exact .left ⟨_, rfl, rfl⟩

/-- The first name that is not a column is the same on both sides. -/
theorem find?_of_alike {α : Type} (name : α → String) {R : α → α → Prop} {as bs : List α}
    (alike : List.Forall₂ R as bs) (same : ∀ a b, R a b → name a = name b) (p : String → Bool) :
    (as.find? fun a => p (name a)) = none ∧ (bs.find? fun b => p (name b)) = none ∨
      ∃ a b, (as.find? fun a => p (name a)) = some a ∧ (bs.find? fun b => p (name b)) = some b ∧
        name a = name b := by
  induction alike with
  | nil => exact .inl ⟨rfl, rfl⟩
  | @cons a b _ _ related _ ih =>
    simp only [List.find?_cons, same a b related]
    cases p (name b) with
    | true => exact .inr ⟨a, b, rfl, rfl, same a b related⟩
    | false => exact ih

theorem alike_checkNames {c d : Command} (alike : c.Alike d) (sql sql' : String)
    (t : TableLayout) : SameUnlessQuoted (c.checkNames sql t) (d.checkNames sql' t) := by
  cases alike with
  | select table columns filter =>
    refine SameUnlessQuoted.bind ?_ fun _ => alike_checkFilter filter sql sql' t
    cases columns with
    | none => exact .same rfl
    | some columns => exact alike_checkColumns columns sql sql' t
  | insert table vs ws columns =>
    rcases find?_of_alike ColumnName.name columns (fun _ _ name => name)
      (fun n => (t.place? n).isNone) with ⟨left, right⟩ | ⟨c, d, left, right, name⟩
    · simp only [checkNames, left, right]
      exact .same rfl
    · simp only [checkNames, left, right, name]
      exact .same rfl
  | update table assignments filter =>
    rcases find?_of_alike (fun a : ColumnName × Operand => a.1.name) assignments
      (fun _ _ name => name) (fun n => (t.place? n).isNone)
      with ⟨left, right⟩ | ⟨a, b, left, right, name⟩
    · simp only [checkNames, left, right]
      exact alike_checkFilter filter sql sql' t
    · simp only [checkNames, left, right, name]
      exact .same rfl
  | delete table filter => exact alike_checkFilter filter sql sql' t
  | rowless unnamed =>
    cases c with
    | begin | commit | rollback | limitPages | nothing => exact .same rfl
    | select | insert | update | delete => cases unnamed

theorem Alike.table? {c d : Command} (alike : c.Alike d) : c.table? = d.table? := by
  cases alike <;> rfl

end Command

end Sql

/-! ## Texts that differ in quotes only -/

/-- The engine may quote a text that it cannot read, but says no more about it. -/
theorem Store.alike_vet {sql sql' : String} {given given' : Nat}
    (alike : LexemesAlike (scan sql) (scan sql'))
    (counted : (parameterMarkers (scan sql)).length = given)
    (counted' : (parameterMarkers (scan sql')).length = given') (s : Store) (c : Connection) :
    SameUnlessQuoted (s.vet c sql given) (s.vet c sql' given') := by
  have pointed {sql : String} {e : SyntaxError} (points : e.offset.isSome = true) :
      (SyntaxError.toStoreError sql e).quotesText = true := by
    obtain ⟨place, offset⟩ := Option.isSome_iff_exists.mp points
    rw [SyntaxError.toStoreError, offset]
    rfl
  unfold vet
  rcases alike_read alike with ⟨e, read, points⟩ | ⟨e, read, points⟩ | ends
  · rw [read]
    exact .left ⟨_, rfl, pointed points⟩
  · rw [read]
    exact .right ⟨_, rfl, pointed points⟩
  · generalize Command.read (scan sql) = left at ends
    generalize Command.read (scan sql') = right at ends
    cases ends with
    | @error e _ same =>
      subst same
      cases offset : e.offset with
      | none =>
        refine .same ?_
        simp only [SyntaxError.toStoreError, offset]
      | some place => exact .left ⟨_, rfl, pointed (by rw [offset]; rfl)⟩
    | @ok command command' related =>
      dsimp only
      rw [related.table?]
      split
      · exact .same rfl
      split
      · exact .same rfl
      · rename_i t _
        refine (Command.alike_checkNames related sql sql' t.layout).bind fun _ => ?_
        rw [counted, counted', related.isJournaled]
        exact .same (by simp)

/-! ## Filters of predicates of one shape -/

namespace Filter

variable {p q : Predicate}

theorem tokensAlike_underAnd (shape : p.Alike q) {ts us : List Token} (alike : TokensAlike ts us) :
    TokensAlike (tokensUnderAnd p ts) (tokensUnderAnd q us) := by
  rw [tokensUnderAnd, tokensUnderAnd, shape.isOr]
  split
  · exact (TokensAlike.refl [.openParen]).append (alike.append (TokensAlike.refl [.closeParen]))
  · exact alike

/-- An inline literal is quoted, so all that is seen of it is that it is there. -/
theorem tokensAlike_tokens (shape : p.Alike q) (columns : List Column) :
    TokensAlike (tokens columns .inline p) (tokens columns .inline q) := by
  induction shape with
  | @compare a b column op null =>
    simp only [tokens, comparisonTokens, column, op, null]
    split
    · exact TokensAlike.refl _
    · exact (TokensAlike.refl [_, _]).append (.cons (.inr ⟨rfl, rfl⟩) fun _ _ => .nil)
  | and left right hl hr =>
    exact (tokensAlike_underAnd left hl).append
      ((TokensAlike.refl [_]).append (tokensAlike_underAnd right hr))
  | or left right hl hr => exact hl.append ((TokensAlike.refl [_]).append hr)

end Filter

section

variable {d : Descriptor} {p q : Predicate} {f g : Filter} {head : String} {hs : List Token}

/-- Behind WHERE stand the tokens of the filter, as far as the text goes. -/
theorem Sql.IsOpening.tokensAlike_filtered {mode : FilterMode} (opening : IsOpening head hs)
    (plain : ∀ c ∈ d.columns, Schema.isIdentifier c.name = true)
    (compiled : Filter.ofPredicate d.columns mode p = .ok f) {us : List Token}
    (alike : TokensAlike (Filter.tokens d.columns mode p) us) :
    ∃ ts, (scan (head ++ " WHERE " ++ f.text)).map Lexeme.token
        = numbered [] (hs ++ .word "WHERE" :: ts) ∧ TokensAlike ts us := by
  have scans := ScansAs.ofPredicate plain compiled
  by_cases readable : Filter.IsReadable mode p
  · have clean := opening.clean_where.append (Filter.clean_ofPredicate plain readable compiled)
    refine ⟨_, ?_, alike⟩
    rw [scan_eq_lexemes clean]
    exact token_lexemes (opening.filtered scans)
  · obtain ⟨ts, front, spelled⟩ :=
      (Filter.endsQuoted_ofPredicate plain compiled readable).token_scan opening
    obtain ⟨quote, vs, quoted, split⟩ := front _ scans
    rw [split] at alike
    exact ⟨_, spelled, alike.cut quoted⟩

theorem Sql.IsOpening.lexemesAlike_filtered (opening : IsOpening head hs) (shape : p.Alike q)
    (plain : ∀ c ∈ d.columns, Schema.isIdentifier c.name = true)
    (compiled : Filter.ofPredicate d.columns .inline p = .ok f)
    (compiled' : Filter.ofPredicate d.columns .inline q = .ok g) :
    LexemesAlike (scan (head ++ " WHERE " ++ f.text)) (scan (head ++ " WHERE " ++ g.text)) := by
  obtain ⟨ts, left, front⟩ :=
    opening.tokensAlike_filtered plain compiled (Filter.tokensAlike_tokens shape d.columns)
  obtain ⟨us, right, both⟩ := opening.tokensAlike_filtered plain compiled' front.symm
  rw [LexemesAlike, left, right]
  apply TokensAlike.numbered_alike
  exact (TokensAlike.refl hs).append ((TokensAlike.refl [_]).append both.symm)

end

/-! ## Statements for predicates of one shape -/

/-- The statement has the parameters that its text asks for. -/
def Statement.IsCounted (a : Statement) : Prop :=
  (parameterMarkers (scan a.sql)).length = a.parameters.length

/-- Every store vets both statements alike. The texts may be quoted only if they hold constants. -/
structure Statement.VettedAlike (mode : FilterMode) (a b : Statement) : Prop where
  counted : a.IsCounted
  counted' : b.IsCounted
  vets : ∀ (s : Store) (c : Connection),
    s.vet c a.sql a.parameters.length = s.vet c b.sql b.parameters.length ∨
      mode = .inline ∧ (Quotes (s.vet c a.sql a.parameters.length) ∨
        Quotes (s.vet c b.sql b.parameters.length))

namespace Statement

variable {d : Descriptor} {decl : Declaration} {mode : FilterMode} {p q : Option Predicate}
  {f g : Filter} {a b : Statement} {values values' : List Value}

theorem Alike.vettedAlike (alike : a.Alike b) (counted : a.IsCounted) : VettedAlike mode a b where
  counted := counted
  counted' := by
    rw [IsCounted, ← alike.sql, ← alike.parameters]
    exact counted
  vets s c := .inl (by rw [alike.sql, alike.parameters])

theorem vettedAlike_filtered {head : String} {hs : List Token} (opening : Sql.IsOpening head hs)
    (plain : ∀ c ∈ d.columns, Schema.isIdentifier c.name = true)
    (shape : Option.Rel Predicate.Alike p q)
    (compiled : Filter.compile p d mode = .ok f) (compiled' : Filter.compile q d mode = .ok g)
    (levels : values.length = values'.length) (counted : (filtered head values f).IsCounted)
    (counted' : (filtered head values' g).IsCounted) :
    VettedAlike mode (filtered head values f) (filtered head values' g) := by
  cases mode with
  | bound =>
    have filters := Filter.alike_compile shape compiled compiled'
    exact (alike_filtered filters head levels).vettedAlike counted
  | inline =>
    cases shape with
    | none =>
      cases compiled
      cases compiled'
      exact (alike_filtered ⟨rfl, rfl⟩ head levels).vettedAlike counted
    | some shape =>
      have alike := opening.lexemesAlike_filtered shape plain compiled compiled'
      rw [filtered_eq plain compiled] at counted ⊢
      rw [filtered_eq plain compiled'] at counted' ⊢
      refine ⟨counted, counted', fun s c => ?_⟩
      rcases s.alike_vet alike counted counted' c with same | left | right
      · exact .inl same
      · exact .inr ⟨rfl, .inl left⟩
      · exact .inr ⟨rfl, .inr right⟩

theorem vettedAlike_select (accepted : d.IsOf decl) (shape : Option.Rel Predicate.Alike p q)
    (compiled : Filter.compile p d mode = .ok f) (compiled' : Filter.compile q d mode = .ok g) :
    VettedAlike mode (select d f) (select d g) :=
  vettedAlike_filtered (isOpening_select accepted.table) accepted.columns shape compiled compiled'
    rfl (select_lines_up accepted compiled (.inl rfl)).1.counted
    (select_lines_up accepted compiled' (.inl rfl)).1.counted

theorem vettedAlike_delete (accepted : d.IsOf decl) (shape : Option.Rel Predicate.Alike p q)
    (compiled : Filter.compile p d mode = .ok f) (compiled' : Filter.compile q d mode = .ok g) :
    VettedAlike mode (delete d f) (delete d g) :=
  vettedAlike_filtered (isOpening_delete accepted.table) accepted.columns shape compiled compiled'
    rfl (delete_lines_up accepted compiled (.inl rfl)).1.counted
    (delete_lines_up accepted compiled' (.inl rfl)).1.counted

theorem vettedAlike_update (accepted : d.IsOf decl) (shape : Option.Rel Predicate.Alike p q)
    (compiled : Filter.compile p d mode = .ok f) (compiled' : Filter.compile q d mode = .ok g)
    (built : update d values f = .ok a) (built' : update d values' g = .ok b) :
    VettedAlike mode a b := by
  have counted := (update_lines_up accepted compiled built (.inl rfl)).1.counted
  have counted' := (update_lines_up accepted compiled' built' (.inl rfl)).1.counted
  obtain ⟨_, level, built⟩ := bind_eq_ok built
  obtain ⟨_, level', built'⟩ := bind_eq_ok built'
  cases Except.ok.inj built
  cases Except.ok.inj built'
  exact vettedAlike_filtered (isOpening_update accepted) accepted.columns shape compiled compiled'
    ((length_of_checkArity level).trans (length_of_checkArity level').symm) counted counted'

theorem vettedAlike_insert (accepted : d.IsOf decl) (built : insert d values = .ok a)
    (built' : insert d values' = .ok b) : VettedAlike mode a b :=
  (alike_insert built built').vettedAlike (insert_lines_up accepted built (.inl rfl)).1.counted

end Statement

end RecordStore
