import RecordStore.Proofs.Outcome
import RecordStore.Sql.Command

/-!
The grammar of conditions: OR binds loosest, AND tighter, parentheses tightest, and both
group to the left. The reader finds the tree of every list of tokens that the grammar has, and
takes no others.
-/
namespace RecordStore.Sql

inductive IsOperand : Lexeme → Operand → Prop
  | parameter {l : Lexeme} {m : Marker} {place : Nat} :
      l.token = .placeholder m place → IsOperand l (.parameter place)
  | text {l : Lexeme} {content : String} :
      l.token = .text content → IsOperand l (.text content)

inductive IsName : Lexeme → ColumnName → Prop
  | mk {l : Lexeme} {name : String} :
      l.token = .word name → isKeyword name = false → IsName l ⟨name, l.offset⟩

theorem isKeyword_of_free {name : String} (free : isReserved name = false) :
    isKeyword name = false :=
  (Bool.or_eq_false_iff.mp free).1

/-- A name that begins no other term. -/
structure IsColumn (l : Lexeme) (c : ColumnName) : Prop where
  name : IsName l c
  no_term : termWords.any (Schema.sameName c.name) = false
  no_clock : clockWords.any (Schema.sameName c.name) = false

inductive IsTest : List Lexeme → Test → Prop
  | compare {l m n : Lexeme} {c : ColumnName} {op : CompareOp} {v : Operand} :
      IsColumn l c → m.token = .compare op → IsOperand n v → IsTest [l, m, n] (.compare c op v)
  | isNull {l m n : Lexeme} {c : ColumnName} :
      IsColumn l c → m.isKeyword "IS" = true → n.isKeyword "NULL" = true →
        IsTest [l, m, n] (.isNull c)
  | isNotNull {l m n o : Lexeme} {c : ColumnName} :
      IsColumn l c → m.isKeyword "IS" = true → n.isKeyword "NOT" = true →
        o.isKeyword "NULL" = true → IsTest [l, m, n, o] (.isNotNull c)

/-- What stands in parentheses does not begin like a query. -/
def NoQuery (ls : List Lexeme) : Prop := ∀ l ∈ ls.head?, l.isKeyword "WITH" = false

mutual

inductive IsCondition : List Lexeme → Condition → Prop
  | conjunction {ls : List Lexeme} {c : Condition} : IsConjunction ls c → IsCondition ls c
  | or {ls ms : List Lexeme} {l : Lexeme} {c d : Condition} :
      IsCondition ls c → l.isKeyword "OR" = true → IsConjunction ms d →
        IsCondition (ls ++ l :: ms) (.or c d)

inductive IsConjunction : List Lexeme → Condition → Prop
  | primary {ls : List Lexeme} {c : Condition} : IsPrimary ls c → IsConjunction ls c
  | and {ls ms : List Lexeme} {l : Lexeme} {c d : Condition} :
      IsConjunction ls c → l.isKeyword "AND" = true → IsPrimary ms d →
        IsConjunction (ls ++ l :: ms) (.and c d)

inductive IsPrimary : List Lexeme → Condition → Prop
  | test {ls : List Lexeme} {t : Test} : IsTest ls t → IsPrimary ls (.test t)
  | parentheses {ls : List Lexeme} {l m : Lexeme} {c : Condition} :
      l.token = .openParen → NoQuery ls → IsCondition ls c → m.token = .closeParen →
        IsPrimary (l :: (ls ++ [m])) c

end

/-- A property of tokens that goes over from the parts of a condition to the whole. -/
structure Composes (P : List Lexeme → Prop) : Prop where
  test : ∀ {ls t}, IsTest ls t → P ls
  connective : ∀ {l}, l.isKeyword "OR" = true ∨ l.isKeyword "AND" = true → P [l]
  group : ∀ {ls l m}, l.token = .openParen → NoQuery ls → m.token = .closeParen → P ls →
    P (l :: (ls ++ [m]))
  append : ∀ {ls ms}, P ls → P ms → P (ls ++ ms)

namespace Composes

variable {P : List Lexeme → Prop} (composes : Composes P)

include composes

theorem between {ls ms : List Lexeme} {l : Lexeme} (left : P ls) (middle : P [l])
    (right : P ms) : P (ls ++ l :: ms) :=
  composes.append left (composes.append middle right)

mutual

theorem condition {ls : List Lexeme} {c : Condition} : IsCondition ls c → P ls
  | .conjunction tree => conjunction tree
  | .or left or right =>
    composes.between (condition left) (composes.connective (.inl or)) (conjunction right)

theorem conjunction {ls : List Lexeme} {c : Condition} : IsConjunction ls c → P ls
  | .primary tree => primary tree
  | .and left and right =>
    composes.between (conjunction left) (composes.connective (.inr and)) (primary right)

theorem primary {ls : List Lexeme} {c : Condition} : IsPrimary ls c → P ls
  | .test tree => composes.test tree
  | .parentheses opens plain tree closes => composes.group opens plain closes (condition tree)

end

end Composes

theorem IsCondition.ne_nil {ls : List Lexeme} {c : Condition} (tree : IsCondition ls c) :
    ls ≠ [] := by
  have composes : Composes (· ≠ []) :=
    { test := fun test => by cases test <;> simp
      connective := by simp
      group := by simp
      append := fun left _ => List.append_ne_nil_of_left_ne_nil left _ }
  exact composes.condition tree

namespace NoQuery

variable {ls : List Lexeme}

theorem append (h : NoQuery ls) (some : ls ≠ []) (ms : List Lexeme) : NoQuery (ls ++ ms) := by
  obtain ⟨l, rest, rfl⟩ := List.exists_cons_of_ne_nil some
  exact h

theorem of_append {ms : List Lexeme} (h : NoQuery (ls ++ ms)) (some : ls ≠ []) : NoQuery ls := by
  obtain ⟨l, rest, rfl⟩ := List.exists_cons_of_ne_nil some
  exact h

end NoQuery

/-! ## What is read is of the grammar -/

section

variable {ls rest : List Lexeme}

theorem isName_of_readName {c : ColumnName} (read : readName ls = .ok (c, rest)) :
    ∃ l, ls = l :: rest ∧ IsName l c := by
  cases ls with
  | nil => cases read
  | cons l ls =>
    rw [readName] at read
    split at read
    · rename_i name word
      split at read
      · cases read
      · rename_i free
        cases read
        exact ⟨l, rfl, .mk word (Bool.eq_false_iff.mpr free)⟩
    · cases read

theorem isColumn_of_readColumn {c : ColumnName} (read : readColumn ls = .ok (c, rest)) :
    ∃ l, ls = l :: rest ∧ IsColumn l c := by
  obtain ⟨⟨column, after⟩, first, last⟩ := bind_eq_ok read
  obtain ⟨l, rfl, name⟩ := isName_of_readName first
  dsimp only at last
  split at last
  · cases last
  rename_i no_term
  split at last
  · cases last
  rename_i no_clock
  cases last
  exact ⟨l, rfl, name, Bool.eq_false_iff.mpr no_term, Bool.eq_false_iff.mpr no_clock⟩

theorem noQuery_of_refuseQuery (read : refuseQuery ls = .ok ()) : NoQuery ls := by
  cases ls with
  | nil => nofun
  | cons l ls =>
    rw [refuseQuery] at read
    split at read
    · cases read
    · rename_i other
      exact fun m mem => Option.some.inj mem ▸ Bool.eq_false_iff.mpr other

theorem isOperand_of_readOperand {v : Operand} (read : readOperand ls = .ok (v, rest)) :
    ∃ l, ls = l :: rest ∧ IsOperand l v := by
  cases ls with
  | nil => cases read
  | cons l ls =>
    rw [readOperand] at read
    split at read
    · rename_i token
      cases read
      exact ⟨l, rfl, .parameter token⟩
    · rename_i token
      cases read
      exact ⟨l, rfl, .text token⟩
    · cases read

theorem isKeyword_of_readKeyword {keyword : String} (read : readKeyword keyword ls = .ok rest) :
    ∃ l, ls = l :: rest ∧ l.isKeyword keyword = true := by
  cases ls with
  | nil => cases read
  | cons l ls =>
    rw [readKeyword] at read
    split at read
    · rename_i here
      cases read
      exact ⟨l, rfl, here⟩
    · cases read

theorem isToken_of_readToken {token : Token} (read : readToken token ls = .ok rest) :
    ∃ l, ls = l :: rest ∧ l.token = token := by
  cases ls with
  | nil => cases read
  | cons l ls =>
    rw [readToken] at read
    split at read
    · rename_i here
      cases read
      exact ⟨l, rfl, here⟩
    · cases read

theorem isTest_of_readNullTest {l m : Lexeme} {c : ColumnName} {t : Test} (name : IsColumn l c)
    (is : m.isKeyword "IS" = true) (read : readNullTest c ls = .ok (t, rest)) :
    ∃ taken, ls = taken ++ rest ∧ IsTest (l :: m :: taken) t := by
  cases ls with
  | nil => cases read
  | cons n ls =>
    rw [readNullTest] at read
    split at read
    · rename_i not
      obtain ⟨_, keyword, done⟩ := bind_eq_ok read
      obtain ⟨o, rfl, null⟩ := isKeyword_of_readKeyword keyword
      cases done
      exact ⟨[n, o], rfl, .isNotNull name is not null⟩
    · obtain ⟨_, keyword, done⟩ := bind_eq_ok read
      obtain ⟨o, shape, null⟩ := isKeyword_of_readKeyword keyword
      cases done
      exact ⟨[o], shape, .isNull name is null⟩

theorem isTest_of_readTest {t : Test} (read : readTest ls = .ok (t, rest)) :
    ∃ taken, ls = taken ++ rest ∧ IsTest taken t := by
  obtain ⟨⟨column, after⟩, first, others⟩ := bind_eq_ok read
  obtain ⟨l, rfl, name⟩ := isColumn_of_readColumn first
  cases after with
  | nil => cases others
  | cons m after =>
    dsimp only at others
    split at others
    · rename_i op token
      obtain ⟨⟨value, _⟩, last, done⟩ := bind_eq_ok others
      obtain ⟨n, rfl, operand⟩ := isOperand_of_readOperand last
      cases done
      exact ⟨[l, m, n], rfl, .compare name token operand⟩
    · split at others
      · rename_i is
        obtain ⟨taken, rfl, test⟩ := isTest_of_readNullTest name is others
        exact ⟨l :: m :: taken, rfl, test⟩
      · cases others

end

mutual

/-- Whatever is read as a condition stands in front of what is left, and is one. -/
theorem isCondition_of_readCondition (fuel : Nat) {ls rest : List Lexeme} {c : Condition}
    (read : readCondition fuel ls = .ok (c, rest)) :
    ∃ taken, ls = taken ++ rest ∧ IsCondition taken c := by
  cases fuel with
  | zero => cases read
  | succ fuel =>
    obtain ⟨⟨first, _⟩, conjunction, more⟩ := bind_eq_ok read
    obtain ⟨before, rfl, tree⟩ := isConjunction_of_readConjunction fuel conjunction
    obtain ⟨taken, rfl, whole⟩ := isCondition_of_readAlternatives fuel (.conjunction tree) more
    exact ⟨before ++ taken, (List.append_assoc ..).symm, whole⟩

theorem isCondition_of_readAlternatives (fuel : Nat) {before ls rest : List Lexeme}
    {first c : Condition} (tree : IsCondition before first)
    (read : readAlternatives fuel first ls = .ok (c, rest)) :
    ∃ taken, ls = taken ++ rest ∧ IsCondition (before ++ taken) c := by
  match fuel, ls with
  | 0, ls =>
    rw [readAlternatives.eq_2 _ _ _ (by nofun)] at read
    cases read
    exact ⟨[], rfl, by rwa [List.append_nil]⟩
  | fuel + 1, [] =>
    rw [readAlternatives.eq_2 _ _ _ (by nofun)] at read
    cases read
    exact ⟨[], rfl, by rwa [List.append_nil]⟩
  | fuel + 1, l :: ls =>
    rw [readAlternatives] at read
    split at read
    · rename_i or
      obtain ⟨⟨next, _⟩, conjunction, more⟩ := bind_eq_ok read
      obtain ⟨right, rfl, right_tree⟩ := isConjunction_of_readConjunction fuel conjunction
      obtain ⟨taken, rfl, whole⟩ :=
        isCondition_of_readAlternatives fuel (.or tree or right_tree) more
      exact ⟨l :: (right ++ taken), by simp, by simpa using whole⟩
    · cases read
      exact ⟨[], rfl, by rwa [List.append_nil]⟩

theorem isConjunction_of_readConjunction (fuel : Nat) {ls rest : List Lexeme} {c : Condition}
    (read : readConjunction fuel ls = .ok (c, rest)) :
    ∃ taken, ls = taken ++ rest ∧ IsConjunction taken c := by
  cases fuel with
  | zero => cases read
  | succ fuel =>
    obtain ⟨⟨first, _⟩, primary, more⟩ := bind_eq_ok read
    obtain ⟨before, rfl, tree⟩ := isPrimary_of_readPrimary fuel primary
    obtain ⟨taken, rfl, whole⟩ := isConjunction_of_readFactors fuel (.primary tree) more
    exact ⟨before ++ taken, (List.append_assoc ..).symm, whole⟩

theorem isConjunction_of_readFactors (fuel : Nat) {before ls rest : List Lexeme}
    {first c : Condition} (tree : IsConjunction before first)
    (read : readFactors fuel first ls = .ok (c, rest)) :
    ∃ taken, ls = taken ++ rest ∧ IsConjunction (before ++ taken) c := by
  match fuel, ls with
  | 0, ls =>
    rw [readFactors.eq_2 _ _ _ (by nofun)] at read
    cases read
    exact ⟨[], rfl, by rwa [List.append_nil]⟩
  | fuel + 1, [] =>
    rw [readFactors.eq_2 _ _ _ (by nofun)] at read
    cases read
    exact ⟨[], rfl, by rwa [List.append_nil]⟩
  | fuel + 1, l :: ls =>
    rw [readFactors] at read
    split at read
    · rename_i and
      obtain ⟨⟨next, _⟩, primary, more⟩ := bind_eq_ok read
      obtain ⟨right, rfl, right_tree⟩ := isPrimary_of_readPrimary fuel primary
      obtain ⟨taken, rfl, whole⟩ :=
        isConjunction_of_readFactors fuel (.and tree and right_tree) more
      exact ⟨l :: (right ++ taken), by simp, by simpa using whole⟩
    · cases read
      exact ⟨[], rfl, by rwa [List.append_nil]⟩

theorem isPrimary_of_readPrimary (fuel : Nat) {ls rest : List Lexeme} {c : Condition}
    (read : readPrimary fuel ls = .ok (c, rest)) :
    ∃ taken, ls = taken ++ rest ∧ IsPrimary taken c := by
  cases fuel with
  | zero => cases read
  | succ fuel =>
    cases ls with
    | nil => cases read
    | cons l ls =>
      rw [readPrimary] at read
      split at read
      · rename_i opens
        obtain ⟨_, refused, read⟩ := bind_eq_ok read
        obtain ⟨⟨inner, _⟩, condition, last⟩ := bind_eq_ok read
        obtain ⟨taken, rfl, tree⟩ := isCondition_of_readCondition fuel condition
        obtain ⟨_, paren, done⟩ := bind_eq_ok last
        obtain ⟨m, rfl, closes⟩ := isToken_of_readToken paren
        cases done
        refine ⟨l :: (taken ++ [m]), by simp, .parentheses opens ?_ tree closes⟩
        exact (noQuery_of_refuseQuery refused).of_append tree.ne_nil
      · obtain ⟨⟨t, _⟩, test, done⟩ := bind_eq_ok read
        obtain ⟨taken, shape, tree⟩ := isTest_of_readTest test
        cases done
        exact ⟨taken, shape, .test tree⟩

end

/-! ## What is of the grammar is read -/

theorem isKeyword_of_word {l : Lexeme} {keyword : String} (h : l.token = .word keyword) :
    l.isKeyword keyword = true := by
  simp [Lexeme.isKeyword, h, Schema.sameName]

theorem readName_of_isName {l : Lexeme} {c : ColumnName} (h : IsName l c)
    (rest : List Lexeme) : readName (l :: rest) = .ok (c, rest) := by
  cases h with
  | mk word free => simp [readName, word, free]

theorem readColumn_of_isColumn {l : Lexeme} {c : ColumnName} (h : IsColumn l c)
    (rest : List Lexeme) : readColumn (l :: rest) = .ok (c, rest) := by
  simp only [readColumn, readName_of_isName h.name, ok_bind, h.no_term, h.no_clock]
  rfl

theorem refuseQuery_of_noQuery {ls : List Lexeme} (h : NoQuery ls) : refuseQuery ls = .ok () := by
  cases ls with
  | nil => rfl
  | cons l ls => simp [refuseQuery, h l rfl]

theorem readOperand_of_isOperand {l : Lexeme} {v : Operand} (h : IsOperand l v)
    (rest : List Lexeme) : readOperand (l :: rest) = .ok (v, rest) := by
  cases h with
  | parameter token => simp [readOperand, token]
  | text token => simp [readOperand, token]

theorem isKeyword_other {l : Lexeme} {keyword other : String} (h : l.isKeyword keyword = true)
    (apart : Schema.foldCase keyword ≠ Schema.foldCase other) : l.isKeyword other = false := by
  unfold Lexeme.isKeyword at h ⊢
  split at h
  · rw [Schema.sameName, beq_iff_eq] at h
    rwa [Schema.sameName, h, beq_eq_false_iff_ne]
  · cases h

theorem readKeyword_of_isKeyword {l : Lexeme} {keyword : String}
    (h : l.isKeyword keyword = true) (rest : List Lexeme) :
    readKeyword keyword (l :: rest) = .ok rest := by
  simp [readKeyword, h]

theorem token_of_isKeyword {l : Lexeme} {keyword : String} (h : l.isKeyword keyword = true) :
    ∃ name, l.token = .word name := by
  unfold Lexeme.isKeyword at h
  split at h
  · rename_i name word
    exact ⟨name, word⟩
  · cases h

theorem readTest_of_isTest {ls : List Lexeme} {t : Test} (h : IsTest ls t)
    (rest : List Lexeme) : readTest (ls ++ rest) = .ok (t, rest) := by
  cases h with
  | compare name op value =>
    simp only [List.cons_append, List.nil_append, readTest, readColumn_of_isColumn name, ok_bind,
      op, readOperand_of_isOperand value]
    rfl
  | @isNull l m n c name is null =>
    have other : n.isKeyword "NOT" = false := isKeyword_other null (by decide)
    obtain ⟨word, token⟩ := token_of_isKeyword is
    simp only [List.cons_append, List.nil_append, readTest, readColumn_of_isColumn name, ok_bind,
      token, is, if_true, readNullTest, other, Bool.false_eq_true, if_false,
      readKeyword_of_isKeyword null]
    rfl
  | isNotNull name is not null =>
    obtain ⟨word, token⟩ := token_of_isKeyword is
    simp only [List.cons_append, List.nil_append, readTest, readColumn_of_isColumn name, ok_bind,
      token, is, if_true, readNullTest, not, readKeyword_of_isKeyword null]
    rfl

/-- What follows a condition, a conjunction or a primary must not carry it on. -/
def Stops (keyword : String) (rest : List Lexeme) : Prop :=
  ∀ l ∈ rest.head?, l.isKeyword keyword = false

theorem stops_nil (keyword : String) : Stops keyword [] := by simp [Stops]

theorem stops_closeParen {l : Lexeme} (h : l.token = .closeParen) (keyword : String)
    (rest : List Lexeme) : Stops keyword (l :: rest) := by
  intro m hm
  cases Option.some.inj hm
  simp [Lexeme.isKeyword, h]

theorem stops_and_of_or {l : Lexeme} (h : l.isKeyword "OR" = true) (rest : List Lexeme) :
    Stops "AND" (l :: rest) := by
  intro m hm
  cases Option.some.inj hm
  exact isKeyword_other h (by decide)

theorem readAlternatives_of_stops {rest : List Lexeme} (stops : Stops "OR" rest) (fuel : Nat)
    (c : Condition) : readAlternatives fuel c rest = .ok (c, rest) := by
  cases fuel with
  | zero => simp [readAlternatives]
  | succ fuel =>
    cases rest with
    | nil => simp [readAlternatives]
    | cons l rest => simp [readAlternatives, stops l rfl]

theorem readFactors_of_stops {rest : List Lexeme} (stops : Stops "AND" rest) (fuel : Nat)
    (c : Condition) : readFactors fuel c rest = .ok (c, rest) := by
  cases fuel with
  | zero => simp [readFactors]
  | succ fuel =>
    cases rest with
    | nil => simp [readFactors]
    | cons l rest => simp [readFactors, stops l rfl]

mutual

theorem readCondition_of_isCondition {ls : List Lexeme} {c : Condition}
    (h : IsCondition ls c) (fuel : Nat) (rest : List Lexeme) (stops : Stops "AND" rest)
    (enough : 4 * (ls.length + rest.length) + 4 ≤ fuel) :
    ∃ left, 4 * rest.length + 3 ≤ left ∧
      readCondition fuel (ls ++ rest) = readAlternatives left c rest := by
  cases h with
  | conjunction h =>
    obtain ⟨fuel, rfl⟩ : ∃ n, fuel = n + 1 := ⟨fuel - 1, by omega⟩
    obtain ⟨left, _, read⟩ := readConjunction_of_isConjunction h fuel rest (by omega)
    refine ⟨fuel, by omega, ?_⟩
    rw [readCondition, read, readFactors_of_stops stops, ok_bind]
  | @or ls ms l c d hc hl hd =>
    simp only [List.length_append, List.length_cons] at enough
    have size : (l :: ms ++ rest).length = ms.length + rest.length + 1 := by simp
    obtain ⟨left, room, read⟩ := readCondition_of_isCondition hc fuel (l :: ms ++ rest)
      (stops_and_of_or hl _) (by omega)
    obtain ⟨left, rfl⟩ : ∃ n, left = n + 1 := ⟨left - 1, by omega⟩
    obtain ⟨after, _, next⟩ := readConjunction_of_isConjunction hd left rest (by omega)
    refine ⟨left, by omega, ?_⟩
    rw [List.append_assoc, read, List.cons_append, readAlternatives,
      if_pos hl, next, readFactors_of_stops stops, ok_bind]

theorem readConjunction_of_isConjunction {ls : List Lexeme} {c : Condition}
    (h : IsConjunction ls c) (fuel : Nat) (rest : List Lexeme)
    (enough : 4 * (ls.length + rest.length) + 3 ≤ fuel) :
    ∃ left, 4 * rest.length + 2 ≤ left ∧
      readConjunction fuel (ls ++ rest) = readFactors left c rest := by
  cases h with
  | primary h =>
    obtain ⟨fuel, rfl⟩ : ∃ n, fuel = n + 1 := ⟨fuel - 1, by omega⟩
    refine ⟨fuel, by omega, ?_⟩
    rw [readConjunction, readPrimary_of_isPrimary h fuel rest (by omega), ok_bind]
  | @and ls ms l c d hc hl hd =>
    simp only [List.length_append, List.length_cons] at enough
    have size : (l :: ms ++ rest).length = ms.length + rest.length + 1 := by simp
    obtain ⟨left, room, read⟩ := readConjunction_of_isConjunction hc fuel (l :: ms ++ rest)
      (by omega)
    obtain ⟨left, rfl⟩ : ∃ n, left = n + 1 := ⟨left - 1, by omega⟩
    refine ⟨left, by omega, ?_⟩
    rw [List.append_assoc, read, List.cons_append, readFactors, if_pos hl,
      readPrimary_of_isPrimary hd left rest (by omega), ok_bind]

theorem readPrimary_of_isPrimary {ls : List Lexeme} {c : Condition} (h : IsPrimary ls c)
    (fuel : Nat) (rest : List Lexeme) (enough : 4 * (ls.length + rest.length) + 2 ≤ fuel) :
    readPrimary fuel (ls ++ rest) = .ok (c, rest) := by
  obtain ⟨fuel, rfl⟩ : ∃ n, fuel = n + 1 := ⟨fuel - 1, by omega⟩
  cases h with
  | @test ls t h =>
    have read := readTest_of_isTest h rest
    obtain ⟨l, ms, rfl, other⟩ : ∃ l ms, ls = l :: ms ∧ l.token ≠ .openParen := by
      cases h with
      | compare name _ _ | isNull name _ _ | isNotNull name _ _ _ =>
        cases name.name with
        | mk word _ => exact ⟨_, _, rfl, by simp [word]⟩
    rw [List.cons_append, readPrimary, if_neg other, ← List.cons_append, read, ok_bind]
    rfl
  | @parentheses ls l m c hl hq hc hm =>
    simp only [List.length_append, List.length_cons, List.length_nil] at enough
    obtain ⟨left, _, read⟩ := readCondition_of_isCondition hc fuel (m :: rest)
      (stops_closeParen hm "AND" rest) (by simp only [List.length_cons]; omega)
    have shape : l :: (ls ++ [m]) ++ rest = l :: (ls ++ m :: rest) := by simp
    rw [shape, readPrimary, if_pos hl, refuseQuery_of_noQuery (hq.append hc.ne_nil _), ok_bind,
      read, readAlternatives_of_stops (stops_closeParen hm "OR" rest), ok_bind]
    simp only [readToken, hm, if_true, ok_bind]
    rfl

end

/-- The reader finds the tree of a condition and leaves what follows it. -/
theorem read_of_isCondition {ls : List Lexeme} {c : Condition} (h : IsCondition ls c)
    {rest : List Lexeme} (noAnd : Stops "AND" rest) (noOr : Stops "OR" rest) :
    Condition.read (ls ++ rest) = .ok (c, rest) := by
  obtain ⟨left, _, read⟩ := readCondition_of_isCondition h (conditionFuel (ls ++ rest)) rest
    noAnd (by simp only [conditionFuel, List.length_append]; omega)
  rw [Condition.read, read, readAlternatives_of_stops noOr]

/-- Tokens have one tree at most. -/
theorem IsCondition.unique {ls : List Lexeme} {c d : Condition} (first : IsCondition ls c)
    (second : IsCondition ls d) : c = d := by
  have hc := read_of_isCondition first (stops_nil "AND") (stops_nil "OR")
  have hd := read_of_isCondition second (stops_nil "AND") (stops_nil "OR")
  exact congrArg Prod.fst (Except.ok.inj (hc.symm.trans hd))

end RecordStore.Sql
