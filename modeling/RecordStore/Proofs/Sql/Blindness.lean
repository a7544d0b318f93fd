import Mathlib.Data.List.Forall2
import RecordStore.Proofs.Sql.Grammar
import RecordStore.Proofs.Sql.Objections
import RecordStore.Proofs.Sql.Scanning
import RecordStore.Store.Connection

/-!
Readers are blind to what stands in quotes. Two texts whose tokens differ there alone are read as
commands that differ there alone, or are refused for one and the same reason, unless the place of
an error is pointed out in one of them.
-/
namespace RecordStore.Sql

/-! ## Tokens -/

def Token.isQuoted : Token → Bool
  | .text _ | .unterminated => true
  | _ => false

def Token.Alike (s t : Token) : Prop := s = t ∨ s.isQuoted = true ∧ t.isQuoted = true

namespace Token.Alike

variable {s t : Token}

theorem symm (alike : s.Alike t) : t.Alike s := by
  rcases alike with same | ⟨left, right⟩
  · exact .inl same.symm
  · exact .inr ⟨right, left⟩

theorem quoted (alike : s.Alike t) (quoted : s.isQuoted = true) : t.isQuoted = true := by
  rcases alike with rfl | ⟨_, right⟩
  · exact quoted
  · exact right

theorem eq_of_plain (alike : s.Alike t) (plain : s.isQuoted = false) : s = t := by
  rcases alike with same | ⟨quoted, _⟩
  · exact same
  · rw [plain] at quoted
    cases quoted

end Token.Alike

/-- The tokens agree one by one. An open quote takes in the rest of its text, so behind one
nothing need agree. -/
inductive TokensAlike : List Token → List Token → Prop
  | nil : TokensAlike [] []
  | cons {s t : Token} {ss ts : List Token} :
      s.Alike t → (s ≠ .unterminated → t ≠ .unterminated → TokensAlike ss ts) →
        TokensAlike (s :: ss) (t :: ts)

namespace TokensAlike

variable {ss ts us vs : List Token}

theorem symm (alike : TokensAlike ss ts) : TokensAlike ts ss := by
  induction alike with
  | nil => exact .nil
  | cons token _ ih => exact .cons token.symm fun right left => ih left right

theorem refl (ts : List Token) : TokensAlike ts ts := by
  induction ts with
  | nil => exact .nil
  | cons t ts ih => exact .cons (.inl rfl) fun _ _ => ih

theorem append (first : TokensAlike ss ts) (second : TokensAlike us vs) :
    TokensAlike (ss ++ us) (ts ++ vs) := by
  induction first with
  | nil => exact second
  | cons token _ ih => exact .cons token ih

/-- A text may as well be cut within a quoted token. -/
theorem cut {q : Token} (alike : TokensAlike (ss ++ q :: us) ts) (quoted : q.isQuoted = true) :
    TokensAlike (ss ++ [.unterminated]) ts := by
  induction ss generalizing ts with
  | nil =>
    obtain - | ⟨token, _⟩ := alike
    exact .cons (.inr ⟨rfl, token.quoted quoted⟩) fun closed => absurd rfl closed
  | cons s ss ih =>
    obtain - | ⟨token, rest⟩ := alike
    exact .cons token fun left right => ih (rest left right)

theorem numbered_alike (alike : TokensAlike ss ts) (seen : List Marker) :
    TokensAlike (numbered seen ss) (numbered seen ts) := by
  induction alike generalizing seen with
  | nil => exact .nil
  | @cons s t ss ts token _ ih =>
    rcases token with rfl | ⟨left, right⟩
    · cases s with
      | placeholder m place => exact .cons (.inl rfl) fun _ _ => ih nofun nofun _
      | word | number | text | compare | star | comma | semicolon | openParen | closeParen | other
      | unterminated => exact .cons (.inl rfl) fun left right => ih left right seen
    · cases s <;> cases left <;> cases t <;> cases right <;>
        exact .cons (.inr ⟨rfl, rfl⟩) fun left right => ih left right seen

end TokensAlike

def LexemesAlike (ls ms : List Lexeme) : Prop :=
  TokensAlike (ls.map Lexeme.token) (ms.map Lexeme.token)

namespace LexemesAlike

variable {l m : Lexeme} {ls ms : List Lexeme}

/-- Texts that look alike end together. -/
theorem cases (alike : LexemesAlike ls ms) :
    ls = [] ∧ ms = [] ∨ ∃ l ls' m ms', ls = l :: ls' ∧ ms = m :: ms' := by
  cases ls with
  | nil =>
    cases ms with
    | nil => exact .inl ⟨rfl, rfl⟩
    | cons m ms => cases alike
  | cons l ls =>
    cases ms with
    | nil => cases alike
    | cons m ms => exact .inr ⟨l, ls, m, ms, rfl, rfl⟩

theorem head (alike : LexemesAlike (l :: ls) (m :: ms)) : l.token.Alike m.token := by
  obtain - | ⟨token, _⟩ := alike
  exact token

theorem closed (alike : LexemesAlike (l :: ls) (m :: ms)) (left : l.token ≠ .unterminated)
    (right : m.token ≠ .unterminated) : LexemesAlike ls ms := by
  obtain - | ⟨_, rest⟩ := alike
  exact rest left right

theorem plain (alike : LexemesAlike (l :: ls) (m :: ms)) (plain : l.token.isQuoted = false) :
    m.token = l.token ∧ LexemesAlike ls ms := by
  have same := alike.head.eq_of_plain plain
  have left : l.token ≠ .unterminated := by
    intro unterminated
    rw [unterminated] at plain
    cases plain
  exact ⟨same.symm, alike.closed left (same ▸ left)⟩

theorem isKeyword (alike : LexemesAlike (l :: ls) (m :: ms)) (keyword : String) :
    m.isKeyword keyword = l.isKeyword keyword := by
  have plain {l : Lexeme} (here : l.isKeyword keyword = true) : l.token.isQuoted = false := by
    obtain ⟨name, word⟩ := token_of_isKeyword here
    rw [word]
    rfl
  rcases alike.head with same | ⟨left, right⟩
  · rw [Lexeme.isKeyword, Lexeme.isKeyword, same]
  · rw [Bool.eq_false_iff.mpr fun here => Bool.noConfusion (left.symm.trans (plain here)),
      Bool.eq_false_iff.mpr fun here => Bool.noConfusion (right.symm.trans (plain here))]

theorem token_eq_iff (alike : LexemesAlike (l :: ls) (m :: ms)) {t : Token}
    (plain : t.isQuoted = false) : m.token = t ↔ l.token = t := by
  constructor
  · rintro rfl
    exact (alike.head.symm.eq_of_plain plain).symm
  · rintro rfl
    exact (alike.head.eq_of_plain plain).symm

theorem behind (alike : LexemesAlike (l :: ls) (m :: ms)) {keyword : String}
    (here : l.isKeyword keyword = true) : LexemesAlike ls ms := by
  obtain ⟨name, word⟩ := token_of_isKeyword here
  exact (alike.plain (word ▸ rfl)).2

end LexemesAlike

/-! ## What readers come to -/

variable {α β γ δ : Type} {ls ms : List Lexeme}

/-- The place of the error is pointed out. -/
def Points (x : Except SyntaxError α) : Prop := ∃ e, x = .error e ∧ e.offset.isSome = true

theorem points_unexpected (l : Lexeme) (ls : List Lexeme) :
    Points (.error (unexpected (l :: ls)) : Except SyntaxError α) := by
  refine ⟨_, rfl, ?_⟩
  rw [unexpected]
  split <;> rfl

theorem Points.bind {x : Except SyntaxError α} (points : Points x) (f : α → Except SyntaxError β) :
    Points (x >>= f) := by
  obtain ⟨e, rfl, offset⟩ := points
  exact ⟨e, rfl, offset⟩

/-- Both readers end alike, unless one of them points at its error. -/
inductive ReadAlike (R : α → β → Prop) (x : Except SyntaxError α) (y : Except SyntaxError β) : Prop
  | left : Points x → ReadAlike R x y
  | right : Points y → ReadAlike R x y
  | same : EndsAlike R Eq x y → ReadAlike R x y

namespace ReadAlike

variable {R : α → β → Prop} {S : γ → δ → Prop} {x : Except SyntaxError α} {y : Except SyntaxError β}

theorem ok {a : α} {b : β} (related : R a b) : ReadAlike R (.ok a) (.ok b) := .same (.ok related)

theorem bind {f : α → Except SyntaxError γ} {g : β → Except SyntaxError δ} (first : ReadAlike R x y)
    (next : ∀ a b, x = .ok a → y = .ok b → R a b → ReadAlike S (f a) (g b)) :
    ReadAlike S (x >>= f) (y >>= g) := by
  cases first with
  | left points => exact .left (points.bind f)
  | right points => exact .right (points.bind g)
  | same ends =>
    cases ends with
    | ok related => exact next _ _ rfl rfl related
    | error same => exact .same (.error same)

end ReadAlike

/-- What is taken is related, and what is left looks alike. -/
def Beside (R : α → β → Prop) (x : α × List Lexeme) (y : β × List Lexeme) : Prop :=
  R x.1 y.1 ∧ LexemesAlike x.2 y.2

def ColumnName.Alike (c d : ColumnName) : Prop := c.name = d.name

/-- Any operand may stand for any other. -/
def Operand.Alike (_ _ : Operand) : Prop := True

/-- The same test of the same column, with any operand. -/
inductive Test.Alike : Test → Test → Prop
  | compare {c d : ColumnName} (op : CompareOp) (v w : Operand) :
      c.Alike d → Alike (.compare c op v) (.compare d op w)
  | isNull {c d : ColumnName} : c.Alike d → Alike (.isNull c) (.isNull d)
  | isNotNull {c d : ColumnName} : c.Alike d → Alike (.isNotNull c) (.isNotNull d)

theorem Test.Alike.column {t u : Test} (alike : t.Alike u) : t.column.Alike u.column := by
  cases alike <;> assumption

/-! ## Words -/

theorem alike_readKeyword (keyword : String) (alike : LexemesAlike ls ms) :
    ReadAlike LexemesAlike (readKeyword keyword ls) (readKeyword keyword ms) := by
  rcases alike.cases with ⟨rfl, rfl⟩ | ⟨l, ls, m, ms, rfl, rfl⟩
  · exact .same (.error rfl)
  · rw [readKeyword, readKeyword, alike.isKeyword]
    split
    · rename_i here
      exact .ok (alike.behind here)
    · exact .left (points_unexpected l ls)

theorem alike_readToken {token : Token} (plain : token.isQuoted = false)
    (alike : LexemesAlike ls ms) :
    ReadAlike LexemesAlike (readToken token ls) (readToken token ms) := by
  rcases alike.cases with ⟨rfl, rfl⟩ | ⟨l, ls, m, ms, rfl, rfl⟩
  · exact .same (.error rfl)
  · simp only [readToken, alike.token_eq_iff plain]
    split
    · rename_i here
      exact .ok (alike.plain (here ▸ plain)).2
    · exact .left (points_unexpected l ls)

theorem alike_readName (alike : LexemesAlike ls ms) :
    ReadAlike (Beside ColumnName.Alike) (readName ls) (readName ms) := by
  rcases alike.cases with ⟨rfl, rfl⟩ | ⟨l, ls, m, ms, rfl, rfl⟩
  · exact .same (.error rfl)
  · rw [readName, readName]
    split
    · rename_i name word
      obtain ⟨same, rest⟩ := alike.plain (word ▸ rfl)
      rw [same, word]
      dsimp only
      split
      · exact .left (points_unexpected l ls)
      · exact .ok ⟨rfl, rest⟩
    · exact .left (points_unexpected l ls)

theorem alike_readColumn (alike : LexemesAlike ls ms) :
    ReadAlike (Beside ColumnName.Alike) (readColumn ls) (readColumn ms) := by
  apply (alike_readName alike).bind
  rintro ⟨⟨name, _⟩, ls⟩ ⟨⟨name', _⟩, ms⟩ _ _ ⟨same, alike⟩
  obtain rfl : name = name' := same
  dsimp only
  split
  · rcases alike.cases with ⟨rfl, rfl⟩ | ⟨l, ls, m, ms, rfl, rfl⟩
    · exact .same (.error rfl)
    · exact .left (points_unexpected l ls)
  split
  · exact .same (.error rfl)
  · exact .ok ⟨rfl, alike⟩

theorem alike_refuseQuery (alike : LexemesAlike ls ms) :
    ReadAlike Eq (refuseQuery ls) (refuseQuery ms) := by
  rcases alike.cases with ⟨rfl, rfl⟩ | ⟨l, ls, m, ms, rfl, rfl⟩
  · exact .ok rfl
  · rw [refuseQuery, refuseQuery, alike.isKeyword]
    split
    · rename_i here
      rcases (alike.behind here).cases with ⟨rfl, rfl⟩ | ⟨l, ls, m, ms, rfl, rfl⟩
      · exact .same (.error rfl)
      · exact .left (points_unexpected l ls)
    · exact .ok rfl

theorem alike_readOperand (alike : LexemesAlike ls ms) :
    ReadAlike (Beside Operand.Alike) (readOperand ls) (readOperand ms) := by
  rcases alike.cases with ⟨rfl, rfl⟩ | ⟨l, ls, m, ms, rfl, rfl⟩
  · exact .same (.error rfl)
  · rw [readOperand, readOperand]
    split
    · rename_i marker place token
      obtain ⟨same, rest⟩ := alike.plain (token ▸ rfl)
      rw [same, token]
      exact .ok ⟨trivial, rest⟩
    · rename_i content token
      -- The quotes of the other operand may be open.
      split
      · exact .ok ⟨trivial, alike.closed (by simp [token]) (by simp [*])⟩
      · exact .ok ⟨trivial, alike.closed (by simp [token]) (by simp [*])⟩
      · exact .right (points_unexpected m ms)
    · exact .left (points_unexpected l ls)

/-! ## Conditions -/

theorem alike_readNullTest {c d : ColumnName} (name : c.Alike d) (alike : LexemesAlike ls ms) :
    ReadAlike (Beside Test.Alike) (readNullTest c ls) (readNullTest d ms) := by
  rcases alike.cases with ⟨rfl, rfl⟩ | ⟨l, ls, m, ms, rfl, rfl⟩
  · exact .same (.error rfl)
  · rw [readNullTest, readNullTest, alike.isKeyword]
    split
    · rename_i here
      exact (alike_readKeyword "NULL" (alike.behind here)).bind
        fun _ _ _ _ rest => .ok ⟨.isNotNull name, rest⟩
    · exact (alike_readKeyword "NULL" alike).bind fun _ _ _ _ rest => .ok ⟨.isNull name, rest⟩

theorem alike_readTest (alike : LexemesAlike ls ms) :
    ReadAlike (Beside Test.Alike) (readTest ls) (readTest ms) := by
  apply (alike_readColumn alike).bind
  rintro ⟨c, ls⟩ ⟨d, ms⟩ _ _ ⟨name, alike⟩
  rcases alike.cases with ⟨rfl, rfl⟩ | ⟨l, ls, m, ms, rfl, rfl⟩
  · exact .same (.error rfl)
  · dsimp only
    split
    · rename_i op token
      obtain ⟨same, rest⟩ := alike.plain (token ▸ rfl)
      rw [same, token]
      exact (alike_readOperand rest).bind
        fun _ _ _ _ ⟨_, rest⟩ => .ok ⟨.compare op _ _ name, rest⟩
    · by_cases here : l.isKeyword "IS" = true
      · obtain ⟨word, token⟩ := token_of_isKeyword here
        obtain ⟨same, rest⟩ := alike.plain (token ▸ rfl)
        rw [same, token, alike.isKeyword]
        simp only [here, if_true]
        exact alike_readNullTest name rest
      · rw [if_neg here]
        exact .left (points_unexpected l ls)

/-- The same tree over the same tests. -/
inductive Condition.Alike : Condition → Condition → Prop
  | test {t u : Test} : t.Alike u → Alike (.test t) (.test u)
  | and {c c' d d' : Condition} : Alike c c' → Alike d d' → Alike (.and c d) (.and c' d')
  | or {c c' d d' : Condition} : Alike c c' → Alike d d' → Alike (.or c d) (.or c' d')

theorem Condition.Alike.height {c d : Condition} (alike : c.Alike d) : c.height = d.height := by
  induction alike with
  | test _ => rfl
  | and _ _ left right | or _ _ left right => simp only [Condition.height, left, right]

section

variable {rest : List Lexeme} {c : Condition}

theorem length_of_readConjunction {fuel : Nat} (read : readConjunction fuel ls = .ok (c, rest)) :
    rest.length ≤ ls.length := by
  obtain ⟨taken, rfl, _⟩ := isConjunction_of_readConjunction fuel read
  simp

theorem length_of_readPrimary {fuel : Nat} (read : readPrimary fuel ls = .ok (c, rest)) :
    rest.length ≤ ls.length := by
  obtain ⟨taken, rfl, _⟩ := isPrimary_of_readPrimary fuel read
  simp

end

mutual

/-- The fuel of either side has to be enough for its own text, which may be cut. -/
theorem alike_readCondition (fuel fuel' : Nat) {ls ms : List Lexeme} (alike : LexemesAlike ls ms)
    (left : 4 * ls.length + 4 ≤ fuel) (right : 4 * ms.length + 4 ≤ fuel') :
    ReadAlike (Beside Condition.Alike) (readCondition fuel ls) (readCondition fuel' ms) := by
  cases fuel with
  | zero => cases left
  | succ fuel =>
    cases fuel' with
    | zero => cases right
    | succ fuel' =>
      apply (alike_readConjunction fuel fuel' alike (by omega) (by omega)).bind
      rintro ⟨c, ls⟩ ⟨d, ms⟩ read read' ⟨tree, alike⟩
      have := length_of_readConjunction read
      have := length_of_readConjunction read'
      exact alike_readAlternatives fuel fuel' tree alike (by omega) (by omega)

theorem alike_readAlternatives (fuel fuel' : Nat) {c d : Condition} {ls ms : List Lexeme}
    (tree : c.Alike d) (alike : LexemesAlike ls ms) (left : 4 * ls.length + 3 ≤ fuel)
    (right : 4 * ms.length + 3 ≤ fuel') :
    ReadAlike (Beside Condition.Alike) (readAlternatives fuel c ls)
      (readAlternatives fuel' d ms) := by
  cases fuel with
  | zero => cases left
  | succ fuel =>
    cases fuel' with
    | zero => cases right
    | succ fuel' =>
      rcases alike.cases with ⟨rfl, rfl⟩ | ⟨l, ls, m, ms, rfl, rfl⟩
      · simp only [readAlternatives]
        exact .ok ⟨tree, alike⟩
      · simp only [List.length_cons] at left right
        rw [readAlternatives, readAlternatives, alike.isKeyword]
        split
        · rename_i here
          apply (alike_readConjunction fuel fuel' (alike.behind here) (by omega) (by omega)).bind
          rintro ⟨c', ls⟩ ⟨d', ms⟩ read read' ⟨next, alike⟩
          have := length_of_readConjunction read
          have := length_of_readConjunction read'
          exact alike_readAlternatives fuel fuel' (.or tree next) alike (by omega) (by omega)
        · exact .ok ⟨tree, alike⟩

theorem alike_readConjunction (fuel fuel' : Nat) {ls ms : List Lexeme}
    (alike : LexemesAlike ls ms) (left : 4 * ls.length + 3 ≤ fuel)
    (right : 4 * ms.length + 3 ≤ fuel') :
    ReadAlike (Beside Condition.Alike) (readConjunction fuel ls) (readConjunction fuel' ms) := by
  cases fuel with
  | zero => cases left
  | succ fuel =>
    cases fuel' with
    | zero => cases right
    | succ fuel' =>
      apply (alike_readPrimary fuel fuel' alike (by omega) (by omega)).bind
      rintro ⟨c, ls⟩ ⟨d, ms⟩ read read' ⟨tree, alike⟩
      have := length_of_readPrimary read
      have := length_of_readPrimary read'
      exact alike_readFactors fuel fuel' tree alike (by omega) (by omega)

theorem alike_readFactors (fuel fuel' : Nat) {c d : Condition} {ls ms : List Lexeme}
    (tree : c.Alike d) (alike : LexemesAlike ls ms) (left : 4 * ls.length + 2 ≤ fuel)
    (right : 4 * ms.length + 2 ≤ fuel') :
    ReadAlike (Beside Condition.Alike) (readFactors fuel c ls) (readFactors fuel' d ms) := by
  cases fuel with
  | zero => cases left
  | succ fuel =>
    cases fuel' with
    | zero => cases right
    | succ fuel' =>
      rcases alike.cases with ⟨rfl, rfl⟩ | ⟨l, ls, m, ms, rfl, rfl⟩
      · simp only [readFactors]
        exact .ok ⟨tree, alike⟩
      · simp only [List.length_cons] at left right
        rw [readFactors, readFactors, alike.isKeyword]
        split
        · rename_i here
          apply (alike_readPrimary fuel fuel' (alike.behind here) (by omega) (by omega)).bind
          rintro ⟨c', ls⟩ ⟨d', ms⟩ read read' ⟨next, alike⟩
          have := length_of_readPrimary read
          have := length_of_readPrimary read'
          exact alike_readFactors fuel fuel' (.and tree next) alike (by omega) (by omega)
        · exact .ok ⟨tree, alike⟩

theorem alike_readPrimary (fuel fuel' : Nat) {ls ms : List Lexeme}
    (alike : LexemesAlike ls ms) (left : 4 * ls.length + 2 ≤ fuel)
    (right : 4 * ms.length + 2 ≤ fuel') :
    ReadAlike (Beside Condition.Alike) (readPrimary fuel ls) (readPrimary fuel' ms) := by
  cases fuel with
  | zero => cases left
  | succ fuel =>
    cases fuel' with
    | zero => cases right
    | succ fuel' =>
      rcases alike.cases with ⟨rfl, rfl⟩ | ⟨l, ls, m, ms, rfl, rfl⟩
      · simp only [readPrimary]
        exact .same (.error rfl)
      · simp only [List.length_cons] at left right
        simp only [readPrimary, alike.token_eq_iff (rfl : Token.openParen.isQuoted = false)]
        split
        · rename_i opens
          obtain ⟨_, rest⟩ := alike.plain (opens ▸ rfl)
          refine (alike_refuseQuery rest).bind fun _ _ _ _ _ => ?_
          apply (alike_readCondition fuel fuel' rest (by omega) (by omega)).bind
          rintro ⟨c, ls⟩ ⟨d, ms⟩ _ _ ⟨tree, alike⟩
          exact (alike_readToken rfl alike).bind fun _ _ _ _ rest => .ok ⟨tree, rest⟩
        · exact (alike_readTest alike).bind fun _ _ _ _ ⟨test, rest⟩ => .ok ⟨.test test, rest⟩

end

/-! ## Lists -/

theorem alike_readList {R : α → α → Prop}
    {item : List Lexeme → Except SyntaxError (α × List Lexeme)}
    (each : ∀ {ls ms}, LexemesAlike ls ms → ReadAlike (Beside R) (item ls) (item ms))
    (shrinks : ∀ {ls a rest}, item ls = .ok (a, rest) → rest.length ≤ ls.length)
    (fuel fuel' : Nat) (alike : LexemesAlike ls ms) (left : ls.length < fuel)
    (right : ms.length < fuel') :
    ReadAlike (Beside (List.Forall₂ R)) (readList item fuel ls) (readList item fuel' ms) := by
  induction fuel generalizing fuel' ls ms with
  | zero => cases left
  | succ fuel ih =>
    cases fuel' with
    | zero => cases right
    | succ fuel' =>
      apply (each alike).bind
      rintro ⟨a, ls⟩ ⟨b, ms⟩ read read' ⟨first, alike⟩
      have := shrinks read
      have := shrinks read'
      rcases alike.cases with ⟨rfl, rfl⟩ | ⟨l, ls, m, ms, rfl, rfl⟩
      · exact .ok ⟨.cons first .nil, alike⟩
      · simp only [List.length_cons] at *
        simp only [alike.token_eq_iff (rfl : Token.comma.isQuoted = false)]
        split
        · rename_i comma
          obtain ⟨_, rest⟩ := alike.plain (comma ▸ rfl)
          exact (ih fuel' rest (by omega) (by omega)).bind fun _ _ _ _ ⟨others, rest⟩ =>
            .ok ⟨.cons first others, rest⟩
        · exact .ok ⟨.cons first .nil, alike⟩

theorem alike_readItems {R : α → α → Prop}
    {item : List Lexeme → Except SyntaxError (α × List Lexeme)}
    (each : ∀ {ls ms}, LexemesAlike ls ms → ReadAlike (Beside R) (item ls) (item ms))
    (shrinks : ∀ {ls a rest}, item ls = .ok (a, rest) → rest.length ≤ ls.length)
    (alike : LexemesAlike ls ms) :
    ReadAlike (Beside (List.Forall₂ R)) (readItems item ls) (readItems item ms) :=
  alike_readList each shrinks _ _ alike (Nat.lt_succ_self _) (Nat.lt_succ_self _)

def AssignmentAlike (a b : ColumnName × Operand) : Prop := a.1.Alike b.1

theorem alike_readAssignment (alike : LexemesAlike ls ms) :
    ReadAlike (Beside AssignmentAlike) (readAssignment ls) (readAssignment ms) := by
  apply (alike_readName alike).bind
  rintro ⟨c, ls⟩ ⟨d, ms⟩ _ _ ⟨name, alike⟩
  apply (alike_readToken rfl alike).bind
  intro ls ms _ _ alike
  exact (alike_readOperand alike).bind fun _ _ _ _ ⟨_, rest⟩ => .ok ⟨name, rest⟩

theorem length_of_readName {c : ColumnName} {rest : List Lexeme}
    (read : readName ls = .ok (c, rest)) : rest.length ≤ ls.length := by
  obtain ⟨l, rfl, _⟩ := isName_of_readName read
  simp

theorem length_of_readColumn {c : ColumnName} {rest : List Lexeme}
    (read : readColumn ls = .ok (c, rest)) : rest.length ≤ ls.length := by
  obtain ⟨l, rfl, _⟩ := isColumn_of_readColumn read
  simp

theorem length_of_readOperand {v : Operand} {rest : List Lexeme}
    (read : readOperand ls = .ok (v, rest)) : rest.length ≤ ls.length := by
  obtain ⟨l, rfl, _⟩ := isOperand_of_readOperand read
  simp

theorem length_of_readAssignment {a : ColumnName × Operand} {rest : List Lexeme}
    (read : readAssignment ls = .ok (a, rest)) : rest.length ≤ ls.length := by
  obtain ⟨⟨c, after⟩, name, read⟩ := bind_eq_ok read
  obtain ⟨behind, equals, read⟩ := bind_eq_ok read
  obtain ⟨⟨v, last⟩, operand, done⟩ := bind_eq_ok read
  cases done
  obtain ⟨l, rfl, _⟩ := isToken_of_readToken equals
  have := length_of_readName name
  have := length_of_readOperand operand
  simp only [List.length_cons] at *
  omega

/-! ## Statements -/

/-- The same table and columns; what stands in quotes may differ. -/
inductive Command.Alike : Command → Command → Prop
  | select {cs ds : Option (List ColumnName)} {f g : Option Condition} (table : String) :
      Option.Rel (List.Forall₂ ColumnName.Alike) cs ds → Option.Rel Condition.Alike f g →
        Alike (.select cs table f) (.select ds table g)
  | insert {cs ds : List ColumnName} (table : String) (vs ws : List Operand) :
      List.Forall₂ ColumnName.Alike cs ds → Alike (.insert table cs vs) (.insert table ds ws)
  | update {as bs : List (ColumnName × Operand)} {f g : Option Condition} (table : String) :
      List.Forall₂ AssignmentAlike as bs → Option.Rel Condition.Alike f g →
        Alike (.update table as f) (.update table bs g)
  | delete {f g : Option Condition} (table : String) :
      Option.Rel Condition.Alike f g → Alike (.delete table f) (.delete table g)
  | rowless {command : Command} : command.table? = none → Alike command command

theorem alike_readFilter (alike : LexemesAlike ls ms) :
    ReadAlike (Beside (Option.Rel Condition.Alike)) (readFilter ls) (readFilter ms) := by
  rcases alike.cases with ⟨rfl, rfl⟩ | ⟨l, ls, m, ms, rfl, rfl⟩
  · exact .ok ⟨.none, alike⟩
  · rw [readFilter, readFilter, alike.isKeyword]
    split
    · rename_i here
      apply (alike_readCondition _ _ (alike.behind here) (Nat.le_refl _) (Nat.le_refl _)).bind
      rintro ⟨c, ls⟩ ⟨d, ms⟩ _ _ ⟨tree, alike⟩
      dsimp only
      rw [tree.height]
      split
      · exact .same (.error rfl)
      · exact .ok ⟨.some tree, alike⟩
    · exact .ok ⟨.none, alike⟩

theorem alike_finish {c d : Command} (command : c.Alike d) (alike : LexemesAlike ls ms) :
    ReadAlike Command.Alike (finish c ls) (finish d ms) := by
  rcases alike.cases with ⟨rfl, rfl⟩ | ⟨l, ls, m, ms, rfl, rfl⟩
  · exact .ok command
  · by_cases semicolon : l.token = .semicolon
    · obtain ⟨same, rest⟩ := alike.plain (semicolon ▸ rfl)
      rcases rest.cases with ⟨rfl, rfl⟩ | ⟨l', ls, m', ms, rfl, rfl⟩
      · rw [finish, finish, same, if_pos semicolon, if_pos semicolon]
        exact .ok command
      · simp only [finish, semicolon, if_true]
        exact .left (points_unexpected l' ls)
    · refine .left ?_
      cases ls with
      | nil =>
        rw [finish, if_neg semicolon]
        exact points_unexpected l []
      | cons l' ls =>
        simp only [finish, semicolon, if_false]
        exact points_unexpected l (l' :: ls)

theorem alike_readSource {cs ds : Option (List ColumnName)}
    (columns : Option.Rel (List.Forall₂ ColumnName.Alike) cs ds) (alike : LexemesAlike ls ms) :
    ReadAlike Command.Alike (readSource cs ls) (readSource ds ms) := by
  apply (alike_readKeyword "FROM" alike).bind
  intro ls ms _ _ alike
  apply (alike_readName alike).bind
  rintro ⟨⟨table, _⟩, ls⟩ ⟨⟨table', _⟩, ms⟩ _ _ ⟨name, alike⟩
  obtain rfl : table = table' := name
  apply (alike_readFilter alike).bind
  rintro ⟨f, ls⟩ ⟨g, ms⟩ _ _ ⟨filter, alike⟩
  exact alike_finish (.select table columns filter) alike

theorem alike_readSelect (alike : LexemesAlike ls ms) :
    ReadAlike Command.Alike (readSelect ls) (readSelect ms) := by
  rcases alike.cases with ⟨rfl, rfl⟩ | ⟨l, ls, m, ms, rfl, rfl⟩
  · exact .same (.error rfl)
  · unfold readSelect
    simp only [alike.token_eq_iff (rfl : Token.star.isQuoted = false)]
    split
    · rename_i star
      exact alike_readSource .none (alike.plain (star ▸ rfl)).2
    · apply (alike_readItems alike_readColumn length_of_readColumn alike).bind
      rintro ⟨cs, ls⟩ ⟨ds, ms⟩ _ _ ⟨columns, alike⟩
      exact alike_readSource (.some columns) alike

theorem alike_readInsert (alike : LexemesAlike ls ms) :
    ReadAlike Command.Alike (readInsert ls) (readInsert ms) := by
  apply (alike_readKeyword "INTO" alike).bind
  intro ls ms _ _ alike
  apply (alike_readName alike).bind
  rintro ⟨⟨table, _⟩, ls⟩ ⟨⟨table', _⟩, ms⟩ _ _ ⟨name, alike⟩
  obtain rfl : table = table' := name
  apply (alike_readToken rfl alike).bind
  intro ls ms _ _ alike
  apply (alike_readItems alike_readName length_of_readName alike).bind
  rintro ⟨cs, ls⟩ ⟨ds, ms⟩ _ _ ⟨columns, alike⟩
  apply (alike_readToken rfl alike).bind
  intro ls ms _ _ alike
  apply (alike_readKeyword "VALUES" alike).bind
  intro ls ms _ _ alike
  apply (alike_readToken rfl alike).bind
  intro ls ms _ _ alike
  apply (alike_readItems alike_readOperand length_of_readOperand alike).bind
  rintro ⟨vs, ls⟩ ⟨ws, ms⟩ _ _ ⟨_, alike⟩
  apply (alike_readToken rfl alike).bind
  intro ls ms _ _ alike
  exact alike_finish (.insert table vs ws columns) alike

theorem alike_readUpdate (alike : LexemesAlike ls ms) :
    ReadAlike Command.Alike (readUpdate ls) (readUpdate ms) := by
  apply (alike_readName alike).bind
  rintro ⟨⟨table, _⟩, ls⟩ ⟨⟨table', _⟩, ms⟩ _ _ ⟨name, alike⟩
  obtain rfl : table = table' := name
  apply (alike_readKeyword "SET" alike).bind
  intro ls ms _ _ alike
  apply (alike_readItems alike_readAssignment length_of_readAssignment alike).bind
  rintro ⟨as, ls⟩ ⟨bs, ms⟩ _ _ ⟨assignments, alike⟩
  apply (alike_readFilter alike).bind
  rintro ⟨f, ls⟩ ⟨g, ms⟩ _ _ ⟨filter, alike⟩
  exact alike_finish (.update table assignments filter) alike

theorem alike_readDelete (alike : LexemesAlike ls ms) :
    ReadAlike Command.Alike (readDelete ls) (readDelete ms) := by
  apply (alike_readKeyword "FROM" alike).bind
  intro ls ms _ _ alike
  apply (alike_readName alike).bind
  rintro ⟨⟨table, _⟩, ls⟩ ⟨⟨table', _⟩, ms⟩ _ _ ⟨name, alike⟩
  obtain rfl : table = table' := name
  apply (alike_readFilter alike).bind
  rintro ⟨f, ls⟩ ⟨g, ms⟩ _ _ ⟨filter, alike⟩
  exact alike_finish (.delete table filter) alike

/-- A name in open quotes is not skipped, but then nothing is read. -/
theorem alike_finishSkipped {c d : Command} (command : c.Alike d) (alike : LexemesAlike ls ms) :
    ReadAlike Command.Alike (finish c (skipName ls)) (finish d (skipName ms)) := by
  rcases alike.cases with ⟨rfl, rfl⟩ | ⟨l, ls, m, ms, rfl, rfl⟩
  · exact alike_finish command alike
  · have points {c : Command} {l : Lexeme} (unterminated : l.token = .unterminated)
        (ls : List Lexeme) : Points (finish c (skipName (l :: ls))) := by
      have other : l.token ≠ .semicolon := by simp [unterminated]
      have kept : skipName (l :: ls) = l :: ls := by simp [skipName, Lexeme.isName, unterminated]
      rw [kept]
      cases ls with
      | nil =>
        rw [finish, if_neg other]
        exact points_unexpected l []
      | cons l' ls =>
        simp only [finish, other, if_false]
        exact points_unexpected l (l' :: ls)
    by_cases left : l.token = .unterminated
    · exact .left (points left ls)
    by_cases right : m.token = .unterminated
    · exact .right (points right ms)
    have named : m.isName = l.isName := by
      rcases alike.head with same | ⟨quoted, quoted'⟩
      · rw [Lexeme.isName, Lexeme.isName, same]
      · unfold Lexeme.isName
        cases first : l.token <;> cases second : m.token <;> simp_all [Token.isQuoted]
    rw [skipName, skipName, named]
    split
    · exact alike_finish command (alike.closed left right)
    · exact alike_finish command alike

theorem alike_finishTransaction {c : Command} (rowless : c.table? = none)
    (alike : LexemesAlike ls ms) :
    ReadAlike Command.Alike (finishTransaction c ls) (finishTransaction c ms) := by
  rcases alike.cases with ⟨rfl, rfl⟩ | ⟨l, ls, m, ms, rfl, rfl⟩
  · exact alike_finish (.rowless rowless) alike
  · rw [finishTransaction, finishTransaction, alike.isKeyword]
    split
    · rename_i here
      exact alike_finishSkipped (.rowless rowless) (alike.behind here)
    · exact alike_finish (.rowless rowless) alike

theorem alike_readBegin (alike : LexemesAlike ls ms) :
    ReadAlike Command.Alike (readBegin ls) (readBegin ms) := by
  rcases alike.cases with ⟨rfl, rfl⟩ | ⟨l, ls, m, ms, rfl, rfl⟩
  · exact alike_finishTransaction rfl alike
  · simp only [readBegin, alike.isKeyword]
    split
    · rename_i here
      exact alike_finishTransaction rfl (alike.behind here)
    split
    · rename_i here
      exact alike_finishTransaction rfl (alike.behind here)
    split
    · rename_i here
      exact alike_finishTransaction rfl (alike.behind here)
    · exact alike_finishTransaction rfl alike

theorem alike_readNumber (alike : LexemesAlike ls ms) :
    ReadAlike (Beside Eq) (readNumber ls) (readNumber ms) := by
  rcases alike.cases with ⟨rfl, rfl⟩ | ⟨l, ls, m, ms, rfl, rfl⟩
  · exact .same (.error rfl)
  · rw [readNumber, readNumber]
    split
    · rename_i digits token
      obtain ⟨same, rest⟩ := alike.plain (token ▸ rfl)
      rw [same, token]
      exact .ok ⟨rfl, rest⟩
    · exact .left (points_unexpected l ls)

theorem alike_readPragma (alike : LexemesAlike ls ms) :
    ReadAlike Command.Alike (readPragma ls) (readPragma ms) := by
  apply (alike_readKeyword "MAX_PAGE_COUNT" alike).bind
  intro ls ms _ _ alike
  apply (alike_readToken rfl alike).bind
  intro ls ms _ _ alike
  apply (alike_readNumber alike).bind
  rintro ⟨pages, ls⟩ ⟨_, ms⟩ _ _ ⟨rfl, alike⟩
  exact alike_finish (.rowless rfl) alike

theorem alike_ofTokens (alike : LexemesAlike ls ms) :
    ReadAlike Command.Alike (Command.ofTokens ls) (Command.ofTokens ms) := by
  rcases alike.cases with ⟨rfl, rfl⟩ | ⟨l, ls, m, ms, rfl, rfl⟩
  · exact .ok (.rowless rfl)
  · simp only [Command.ofTokens, alike.isKeyword]
    split
    · rename_i here
      exact alike_readSelect (alike.behind here)
    split
    · rename_i here
      exact alike_readInsert (alike.behind here)
    split
    · rename_i here
      exact alike_readUpdate (alike.behind here)
    split
    · rename_i here
      exact alike_readDelete (alike.behind here)
    split
    · rename_i here
      exact alike_readBegin (alike.behind here)
    split
    · rename_i here
      exact alike_finishTransaction rfl (alike.behind here)
    split
    · rename_i here
      exact alike_finishTransaction rfl (alike.behind here)
    split
    · rename_i here
      exact alike_finishTransaction rfl (alike.behind here)
    split
    · rename_i here
      exact alike_readPragma (alike.behind here)
    · exact .left (points_unexpected l ls)

/-- What stands in quotes does not change what a text is read as. -/
theorem alike_read (alike : LexemesAlike ls ms) :
    ReadAlike Command.Alike (Command.read ls) (Command.read ms) := by
  apply (alike_ofTokens alike).bind
  intro command command' _ _ related
  split
  · exact .left ⟨_, rfl, rfl⟩
  · split
    · exact .right ⟨_, rfl, rfl⟩
    · exact .ok related

end RecordStore.Sql
