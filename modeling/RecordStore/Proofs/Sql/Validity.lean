import RecordStore.Proofs.Sql.InsertText

/-!
Statements of the store's language. A plain identifier is read as a name unless it is a keyword,
and as that of a column unless it begins another term, so the statements of an accepted
declaration are of the language exactly if none of its names is reserved.
-/
namespace RecordStore

open Sql

/-! ## Refusals of a text -/

def StoreError.IsSyntax : StoreError → Prop
  | .failed (.nearToken _) | .failed (.unrecognizedToken _) | .failed .incompleteInput => True
  | .located (.nearToken _) _ _ | .located (.unrecognizedToken _) _ _
  | .located .incompleteInput _ _ => True
  | _ => False

/-- A word stands for the time of the day, where the text means a column. -/
def StoreError.ReadsClock : StoreError → Prop
  | .failed (.clockWord _) | .located (.clockWord _) _ _ => True
  | _ => False

def StoreError.IsMisreading (e : StoreError) : Prop := e.IsSyntax ∨ e.ReadsClock

/-- The store finds that the text is not of its language, or takes a column for something
else. -/
def Store.Misreads (s : Store) (id : Nat) (c : Connection) (sql : String) : Prop :=
  ∃ e, (s.prepare id c sql).1 = .error e ∧ e.IsMisreading

theorem StoreError.MissesColumn.not_isMisreading {e : StoreError} (misses : e.MissesColumn) :
    ¬e.IsMisreading := by
  unfold MissesColumn at misses
  split at misses
  · rintro (⟨⟨⟩⟩ | ⟨⟨⟩⟩)
  · rintro (⟨⟨⟩⟩ | ⟨⟨⟩⟩)
  · rintro (⟨⟨⟩⟩ | ⟨⟨⟩⟩)
  · cases misses

namespace Sql

def SyntaxError.IsMisreading (e : SyntaxError) : Prop :=
  ∀ sql, (SyntaxError.toStoreError sql e).IsMisreading

theorem isMisreading_unexpected (tokens : List Lexeme) : (unexpected tokens).IsMisreading := by
  intro sql
  left
  cases tokens with
  | nil => exact trivial
  | cons l rest =>
    simp only [unexpected]
    split
    · exact trivial
    · exact trivial

theorem SyntaxError.IsLimit.not_isMisreading {e : SyntaxError} (limit : e.IsLimit) (sql : String) :
    ¬(SyntaxError.toStoreError sql e).IsMisreading := by
  obtain ⟨cause, offset⟩ := e
  unfold SyntaxError.toStoreError
  rcases limit with rfl | rfl
  · cases offset <;> exact not_or.mpr ⟨not_false, not_false⟩
  · cases offset <;> exact not_or.mpr ⟨not_false, not_false⟩

end Sql

/-- The text alone is misread, whatever tables the store has. -/
theorem Store.misreads_iff (s : Store) (id : Nat) (c : Connection) (sql : String) :
    s.Misreads id c sql ↔
      ∃ e, Command.read (scan sql) = .error e ∧ (SyntaxError.toStoreError sql e).IsMisreading := by
  constructor
  · rintro ⟨e, refused, misread⟩
    unfold prepare at refused
    split at refused
    · rename_i objection read
      cases refused
      exact ⟨objection, read, misread⟩
    · rename_i command _
      split at refused
      · cases refused
      · split at refused
        · cases refused
          exact absurd misread (not_or.mpr ⟨not_false, not_false⟩)
        · dsimp only at refused
          split at refused
          · cases refused
            exact absurd misread (not_or.mpr ⟨not_false, not_false⟩)
          · rename_i t _
            cases checked : command.checkNames sql t.layout with
            | ok => simp [checked, Except.map] at refused
            | error cause =>
              simp only [checked, Except.map, Except.error.injEq] at refused
              cases refused
              have misses := (misses_checkNames sql t.layout command).of_error _ checked
              exact absurd misread misses.not_isMisreading
  · rintro ⟨e, read, misread⟩
    refine ⟨SyntaxError.toStoreError sql e, ?_, misread⟩
    rw [prepare, read]

namespace Sql

/-- A text is read as a command, or is refused for its size only. -/
def IsValid (sql : String) : Prop :=
  FailsOnly SyntaxError.IsLimit (Command.read (scan sql))

end Sql

/-! ## Statements without reserved names -/

section

variable {d : Descriptor} {decl : Declaration} {mode : FilterMode} {f : Filter}
  {values : List Value} {p : Option Predicate} {s : Statement}

namespace Sql

theorem isValid_filtered {head : String} {hs : List Token}
    {Makes : (Option Condition → Command) → Prop} (isHead : IsHead head hs Makes)
    (level : values.length = (markersAfter [] hs).length)
    (plain : ∀ c ∈ d.columns, Schema.isIdentifier c.name = true)
    (free : ∀ c ∈ d.columns, isReserved c.name = false) (compiled : Filter.compile p d mode = .ok f)
    (readable : ∀ q, p = some q → Filter.IsReadable mode q) :
    IsValid (Statement.filtered head values f).sql := by
  cases p with
  | none =>
    cases Except.ok.inj compiled
    obtain ⟨make, _, read⟩ :=
      isHead.reads (scan head) [] (isHead.isOpening.tokens (.inl rfl)) (by simp)
    rw [List.append_nil] at read
    have whole : Command.ofTokens (scan head) = .ok (make none) := read
    show FailsOnly _ (Command.read (scan head))
    rw [Command.read, whole, ok_bind]
    split
    · exact .error (.inr rfl)
    · exact .ok _
  | some q =>
    obtain ⟨c, make, _, _, refused, reads, _⟩ :=
      Command.read_filtered isHead level plain (q.usesFree_of_free free) compiled
        (readable q rfl)
    rw [Statement.filtered_eq plain compiled]
    by_cases many : maxParameters < values.length + f.parameters.length
    · obtain ⟨e, read, limit⟩ := refused many
      rw [IsValid, read]
      exact .error limit
    · rw [IsValid, reads (Nat.not_lt.mp many)]
      split
      · exact .error (.inl rfl)
      · exact .ok _

theorem isValid_insert (accepted : d.IsOf decl) (freeTable : isKeyword d.table = false)
    (free : ∀ c ∈ d.columns, isReserved c.name = false) : IsValid (Statement.insertAll d) := by
  obtain ⟨columns, _, refused, reads⟩ :=
    Command.read_insert accepted freeTable fun c mem => isKeyword_of_free (free c mem)
  by_cases many : maxParameters < d.columns.length
  · obtain ⟨e, read, limit⟩ := refused many
    rw [IsValid, read]
    exact .error limit
  · rw [IsValid, reads (Nat.not_lt.mp many)]
    exact .ok _

/-- Every statement that is built for names that are not reserved is of the language. -/
theorem isValid_of_isBuilt (accepted : d.IsOf decl) (freeTable : isKeyword d.table = false)
    (free : ∀ c ∈ d.columns, isReserved c.name = false) (compiled : Filter.compile p d mode = .ok f)
    (readable : ∀ q, p = some q → Filter.IsReadable mode q)
    (built : Statement.IsBuilt d values f s) : IsValid s.sql := by
  cases built with
  | select =>
    exact isValid_filtered (isHead_select accepted.table freeTable) rfl accepted.columns free
      compiled readable
  | delete =>
    exact isValid_filtered (isHead_delete accepted.table freeTable) rfl accepted.columns free
      compiled readable
  | insert built =>
    obtain ⟨rfl, _⟩ := Statement.insert_ok built
    exact isValid_insert accepted freeTable free
  | update built =>
    obtain ⟨_, counted, built⟩ := bind_eq_ok built
    cases Except.ok.inj built
    have names : ∀ c ∈ d.columns, isKeyword c.name = false :=
      fun c mem => isKeyword_of_free (free c mem)
    exact isValid_filtered (isHead_update accepted freeTable names)
      (level_update accepted (Statement.length_of_checkArity counted)) accepted.columns free
      compiled readable

end Sql

/-! ## Keywords among the names -/

namespace Sql

theorem readName_of_keyword {l : Lexeme} {name : String} (word : l.token = .word name)
    (reserved : isKeyword name = true) (rest : List Lexeme) :
    readName (l :: rest) = .error (unexpected (l :: rest)) := by
  simp [readName, word, reserved]

/-- A list is read up to its first item that is not read. -/
theorem readItems_of_unread {α β : Type} (item : List Lexeme → Except SyntaxError (α × List Lexeme))
    (unread : β → Prop) {chunk : β → List Token} {xs : List β} (some_unread : ∃ x ∈ xs, unread x)
    (reads : ∀ x ∈ xs, ¬unread x → ∀ ls rest, ls.map Lexeme.token = chunk x →
      ∃ v, item (ls ++ rest) = .ok (v, rest))
    (fails : ∀ x ∈ xs, unread x → ∀ ls rest, ls.map Lexeme.token = chunk x →
      ∃ tokens, item (ls ++ rest) = .error (unexpected tokens))
    {ls : List Lexeme} (spelled : ls.map Lexeme.token = [Token.comma].intercalate (xs.map chunk))
    (after : List Lexeme) :
    ∃ tokens, readItems item (ls ++ after) = .error (unexpected tokens) := by
  unfold readItems
  generalize (ls ++ after).length + 1 = fuel
  induction xs generalizing ls fuel with
  | nil => simp at some_unread
  | cons x rest ih =>
    cases fuel with
    | zero => exact ⟨_, rfl⟩
    | succ fuel =>
      obtain ⟨front, back, rfl, here, later⟩ : ∃ front back, ls = front ++ back ∧
          front.map Lexeme.token = chunk x ∧ (rest ≠ [] → back.map Lexeme.token
            = .comma :: [Token.comma].intercalate (rest.map chunk)) := by
        cases rest with
        | nil =>
          rw [List.map_singleton, List.intercalate_singleton] at spelled
          exact ⟨ls, [], by simp, spelled, fun other => absurd rfl other⟩
        | cons next rest =>
          rw [List.map_cons, List.map_cons, List.intercalate_cons_cons, List.append_assoc,
            List.singleton_append, List.map_eq_append_iff] at spelled
          obtain ⟨front, back, rfl, here, later⟩ := spelled
          exact ⟨front, back, rfl, here, fun _ => later⟩
      rw [List.append_assoc]
      by_cases bad : unread x
      · obtain ⟨tokens, failed⟩ := fails x (List.mem_cons_self ..) bad front (back ++ after) here
        exact ⟨tokens, by rw [readList, failed, error_bind]⟩
      · obtain ⟨y, mem, unread_y⟩ := some_unread
        have behind : y ∈ rest :=
          (List.mem_cons.mp mem).resolve_left fun same => bad (same ▸ unread_y)
        obtain ⟨comma, back, rfl, isComma, others⟩ :=
          List.map_eq_cons_iff.mp (later (List.ne_nil_of_mem behind))
        obtain ⟨tokens, failed⟩ := ih ⟨y, behind, unread_y⟩
          (fun z mem => reads z (List.mem_cons_of_mem _ mem))
          (fun z mem => fails z (List.mem_cons_of_mem _ mem)) others fuel
        obtain ⟨v, first⟩ :=
          reads x (List.mem_cons_self ..) bad front (comma :: (back ++ after)) here
        refine ⟨tokens, ?_⟩
        rw [List.cons_append, readList, first, ok_bind]
        simp only [isComma, if_true, failed, error_bind]

theorem readItems_of_keyword {names : List String} (reserved : ∃ n ∈ names, isKeyword n = true)
    {ls : List Lexeme} (spelled : ls.map Lexeme.token = (names.map Token.word).intersperse .comma)
    (after : List Lexeme) :
    ∃ tokens, readItems readName (ls ++ after) = .error (unexpected tokens) := by
  rw [← intercalate_singleton] at spelled
  refine readItems_of_unread readName (fun n => isKeyword n = true) reserved ?_ ?_ spelled after
  · intro n _ free ls rest chunk
    obtain ⟨l, _, rfl, word, last⟩ := List.map_eq_cons_iff.mp chunk
    cases List.map_eq_nil_iff.mp last
    exact ⟨_, readName_of_isName (.mk word (Bool.eq_false_iff.mpr free)) rest⟩
  · intro n _ keyword ls rest chunk
    obtain ⟨l, _, rfl, word, last⟩ := List.map_eq_cons_iff.mp chunk
    cases List.map_eq_nil_iff.mp last
    exact ⟨_, readName_of_keyword word keyword rest⟩

end Sql

theorem Descriptor.free_or_keyword (d : Descriptor) :
    (isKeyword d.table = false ∧ ∀ c ∈ d.columns, isKeyword c.name = false) ∨
      (isKeyword d.table = true ∨ ∃ c ∈ d.columns, isKeyword c.name = true) := by
  refine or_iff_not_imp_right.mpr fun none => ?_
  simpa only [not_or, not_exists, not_and, Bool.not_eq_true] using none

/-- A keyword among the names of a descriptor is where the reading of its INSERT ends. -/
theorem Command.read_insert_keyword (accepted : d.IsOf decl)
    (reserved : isKeyword d.table = true ∨ ∃ c ∈ d.columns, isKeyword c.name = true) :
    ∃ tokens, Command.read (scan (Statement.insertAll d)) = .error (unexpected tokens) := by
  have spelled := (isOpening_insert accepted).tokens (.inl rfl)
  rw [(numbered_insertTokens accepted).1] at spelled
  generalize scan (Statement.insertAll d) = ls at spelled
  simp only [insertTokens, List.cons_append, List.nil_append, List.append_assoc,
    List.map_eq_cons_iff, List.map_eq_append_iff] at spelled
  obtain ⟨a, _, rfl, ha, b, _, rfl, hb, t, _, rfl, ht, o, _, rfl, ho, front, back, rfl, hfront,
    _⟩ := spelled
  have insert := isKeyword_of_word ha
  have select : a.isKeyword "SELECT" = false := isKeyword_other insert (by decide)
  by_cases freeTable : isKeyword d.table = true
  · have failed := readName_of_keyword ht freeTable (o :: (front ++ back))
    refine ⟨t :: o :: (front ++ back), ?_⟩
    simp only [Command.read, Command.ofTokens, select, insert, Bool.false_eq_true, if_false,
      if_true, readInsert, readKeyword_of_isKeyword (isKeyword_of_word hb), ok_bind, failed,
      error_bind]
  · obtain ⟨c, hc, keyword⟩ := reserved.resolve_left freeTable
    obtain ⟨tokens, failed⟩ :=
      readItems_of_keyword ⟨c.name, List.mem_map_of_mem hc, keyword⟩ hfront back
    have name := readName_of_isName (.mk ht (Bool.eq_false_iff.mpr freeTable))
      (o :: (front ++ back))
    refine ⟨tokens, ?_⟩
    simp only [Command.read, Command.ofTokens, select, insert, Bool.false_eq_true, if_false,
      if_true, readInsert, readKeyword_of_isKeyword (isKeyword_of_word hb), ok_bind, name,
      readToken, ho, failed, error_bind]

/-! ## Columns that begin another term -/

namespace Sql

theorem unread_of_primary {ls : List Lexeme} {e : SyntaxError}
    (unread : ∀ fuel, readPrimary (fuel + 1) ls = .error e) : Condition.read ls = .error e := by
  have fuel : conditionFuel ls = 4 * ls.length + 1 + 1 + 1 + 1 := rfl
  rw [Condition.read, fuel, readCondition, readConjunction, unread]
  rfl

/-- A test of a column that begins another term, or stands for the time of the day. -/
theorem unread_of_term {l : Lexeme} {name : String} (word : l.token = .word name)
    (free : isKeyword name = false)
    (term : (termWords ++ clockWords).any (Schema.sameName name) = true) (rest : List Lexeme) :
    ∃ e : SyntaxError, Condition.read (l :: rest) = .error e ∧ e.IsMisreading := by
  obtain ⟨e, read, misread⟩ : ∃ e : SyntaxError,
      readColumn (l :: rest) = .error e ∧ e.IsMisreading := by
    simp only [readColumn, readName_of_isName (.mk word free), ok_bind]
    split
    · exact ⟨_, rfl, isMisreading_unexpected rest⟩
    · rename_i no_term
      rw [List.any_append, Bool.eq_false_iff.mpr no_term, Bool.false_or] at term
      rw [if_pos term]
      exact ⟨_, rfl, fun sql => .inr trivial⟩
  refine ⟨e, unread_of_primary fun fuel => ?_, misread⟩
  have solid : l.token ≠ .openParen := by simp [word]
  rw [readPrimary, if_neg solid, readTest, read]
  rfl

/-- A parenthesis in front of a column that begins a query. -/
theorem unread_of_query {l m : Lexeme} (opens : l.token = .openParen)
    (query : m.isKeyword "WITH" = true) (rest : List Lexeme) :
    ∃ e : SyntaxError, Condition.read (l :: m :: rest) = .error e ∧ e.IsMisreading := by
  refine ⟨unexpected rest, unread_of_primary fun fuel => ?_, isMisreading_unexpected rest⟩
  rw [readPrimary, if_pos opens, refuseQuery, if_pos query]
  rfl

/-- Behind its head a text is read as its condition is. -/
theorem IsHead.unread_filtered {head : String} {hs : List Token}
    {Makes : (Option Condition → Command) → Prop} (isHead : IsHead head hs Makes) {q : Predicate}
    (plain : ∀ c ∈ d.columns, Schema.isIdentifier c.name = true)
    (compiled : Filter.ofPredicate d.columns mode q = .ok f) (readable : Filter.IsReadable mode q)
    (unread : ∀ seen ls, ls.map Lexeme.token = numbered seen (Filter.tokens d.columns mode q) →
      ∃ e : SyntaxError, Condition.read ls = .error e ∧ e.IsMisreading) :
    ∃ e, Command.read (scan (head ++ " WHERE " ++ f.text)) = .error e ∧ e.IsMisreading := by
  have clean :=
    isHead.isOpening.clean_where.append (Filter.clean_ofPredicate plain readable compiled)
  have spelled := token_lexemes (isHead.isOpening.filtered (ScansAs.ofPredicate plain compiled))
  rw [scan_eq_lexemes clean]
  generalize lexemes (head ++ " WHERE " ++ f.text) = ls at spelled
  rw [numbered_append, List.map_eq_append_iff] at spelled
  obtain ⟨front, back, rfl, hfront, hback⟩ := spelled
  simp only [numbered, List.map_eq_cons_iff] at hback
  obtain ⟨l, rest, rfl, opens, hrest⟩ := hback
  obtain ⟨make, _, read⟩ := isHead.reads front (l :: rest) hfront (by simp [opens])
  obtain ⟨e, failed, misread⟩ := unread _ rest hrest
  refine ⟨e, ?_, misread⟩
  rw [Command.read, read]
  simp only [readFilter, isKeyword_of_word opens, if_true, failed, error_bind]

end Sql

/-! ## Descriptors -/

/-- No store misreads a statement that is built for the descriptor. A text literal that SQL text
cannot hold is left out. -/
def Descriptor.YieldsValid (d : Descriptor) : Prop :=
  ∀ (mode : FilterMode) (p : Option Predicate) (f : Filter) (values : List Value) (s : Statement),
    Filter.compile p d mode = .ok f → (∀ q, p = some q → Filter.IsReadable mode q) →
    Statement.IsBuilt d values f s →
    ∀ (store : Store) (id : Nat) (c : Connection), ¬store.Misreads id c s.sql

namespace Descriptor.YieldsValid

variable (valid : d.YieldsValid) (isOf : d.IsOf decl)

include valid isOf

theorem no_keyword : isKeyword d.table = false ∧ ∀ c ∈ d.columns, isKeyword c.name = false := by
  refine d.free_or_keyword.resolve_right fun reserved => ?_
  obtain ⟨tokens, read⟩ := Command.read_insert_keyword isOf reserved
  have built : Statement.insert d (List.replicate d.columns.length .null)
      = .ok ⟨Statement.insertAll d, List.replicate d.columns.length .null⟩ := by
    simp only [Statement.insert, Statement.checkArity, List.length_replicate, if_true, ok_bind]
    rfl
  refine valid .bound none .empty _ _ rfl (by simp) (.insert built) (.empty []) 0 (.fresh 0 true) ?_
  exact (Store.misreads_iff ..).mpr ⟨_, read, isMisreading_unexpected tokens _⟩

theorem read_select {q : Predicate}
    (compiled : Filter.ofPredicate d.columns .bound q = .ok f) :
    ¬∀ seen ls, ls.map Lexeme.token = numbered seen (Filter.tokens d.columns .bound q) →
      ∃ e : SyntaxError, Condition.read ls = .error e ∧ e.IsMisreading := by
  intro unread
  have readable : Filter.IsReadable .bound q := nofun
  obtain ⟨e, read, misread⟩ := (isHead_select isOf.table (valid.no_keyword isOf).1).unread_filtered
    isOf.columns compiled readable unread
  refine valid .bound (some q) f [] _ compiled (fun _ same => Option.some.inj same ▸ readable)
    .select (.empty []) 0 (.fresh 0 true) ?_
  rw [Store.misreads_iff, Statement.select_eq isOf.columns compiled]
  exact ⟨e, read, misread _⟩

theorem no_reserved {c : Column} (mem : c ∈ d.columns) : isReserved c.name = false := by
  have found : Schema.column? d.columns c.name = some c :=
    (Schema.column?_eq_some_iff isOf.apart).mpr ⟨mem, by simp [Schema.sameName]⟩
  have keyword := (valid.no_keyword isOf).2 c mem
  -- a test for NULL begins with the column, and two of them in parentheses with a parenthesis
  let test : Predicate := .isNull c.name
  let text : Filter := ⟨c.name ++ " IS NULL", []⟩
  have compiled : Filter.ofPredicate d.columns .bound test = .ok text := by
    simp [test, text, Predicate.isNull, Predicate.compareWith, Filter.ofPredicate,
      Filter.ofComparison, Comparison.check, found]
    rfl
  have tokens : Filter.tokens d.columns .bound test
      = [.word c.name, .word "IS", .word "NULL"] := by
    simp [test, Predicate.isNull, Predicate.compareWith, Filter.tokens, Filter.comparisonTokens,
      found, Literal.isNull]
  by_contra reserved
  rw [Bool.not_eq_false, isReserved, keyword, Bool.false_or, List.any_append, Bool.or_eq_true]
    at reserved
  rcases reserved with term | query
  · refine valid.read_select isOf compiled fun seen ls spelled => ?_
    rw [tokens] at spelled
    simp only [numbered, List.map_eq_cons_iff] at spelled
    obtain ⟨l, rest, rfl, word, _⟩ := spelled
    exact unread_of_term word keyword term rest
  · have both : Filter.ofPredicate d.columns .bound (.and (.or test test) test)
        = .ok ((text.joined " OR " text).parenthesized.joined " AND " text) := by
      simp only [Filter.ofPredicate, compiled, ok_bind]
      rfl
    refine valid.read_select isOf both fun seen ls spelled => ?_
    simp only [Filter.tokens, tokens, Filter.tokensUnderAnd, Predicate.isOr, if_true,
      List.cons_append, numbered, List.map_eq_cons_iff] at spelled
    obtain ⟨l, _, rfl, opens, m, rest, rfl, word, _⟩ := spelled
    refine unread_of_query opens ?_ rest
    simpa [isKeyword_with, Token.isWith, word] using query

end Descriptor.YieldsValid

theorem Descriptor.yieldsValid_iff (accepted : decl.describe = .ok d) :
    d.YieldsValid ↔ isKeyword d.table = false ∧ ∀ c ∈ d.columns, isReserved c.name = false := by
  have isOf := Declaration.describe_ok accepted
  constructor
  · exact fun valid => ⟨(valid.no_keyword isOf).1, fun _ mem => valid.no_reserved isOf mem⟩
  · rintro ⟨freeTable, free⟩ mode p f values s compiled readable built store id c refused
    obtain ⟨e, read, misread⟩ := (Store.misreads_iff ..).mp refused
    have valid := isValid_of_isBuilt isOf freeTable free compiled readable built
    exact (valid.of_error e read).not_isMisreading s.sql misread

theorem Descriptor.yieldsValid_entries : Entry.descriptor.YieldsValid :=
  (yieldsValid_iff Entry.describe_declaration).mpr ⟨Entry.table_free, Entry.columns_free⟩

/-- A declaration may be accepted whose table no statement can name. -/
theorem Descriptor.not_yieldsValid_order :
    (⟨"orders::Order", some "ORDER", [⟨"ID", .integer⟩]⟩ : Declaration).describe
        = .ok ⟨"Order", "ORDER", [⟨"ID", .integer⟩]⟩ ∧
      (∀ (store : Store) (id : Nat) (c : Connection),
        store.Misreads id c (Statement.select ⟨"Order", "ORDER", [⟨"ID", .integer⟩]⟩ .empty).sql) ∧
      ¬(⟨"Order", "ORDER", [⟨"ID", .integer⟩]⟩ : Descriptor).YieldsValid := by
  have refused : ∀ (store : Store) (id : Nat) (c : Connection), store.Misreads id c
      (Statement.select ⟨"Order", "ORDER", [⟨"ID", .integer⟩]⟩ .empty).sql := by
    intro store id c
    refine (Store.misreads_iff ..).mpr ⟨⟨.nearToken "ORDER", some 14⟩, ?_, .inl trivial⟩
    decide
  refine ⟨eq_ok_of_toOption (by decide), refused, fun valid => ?_⟩
  exact valid .bound none .empty [] _ rfl (by simp) .select (.empty []) 0 (.fresh 0 true)
    (refused _ _ _)

end

end RecordStore
