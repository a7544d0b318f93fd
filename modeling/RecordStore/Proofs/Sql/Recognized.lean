import RecordStore.Proofs.Sql.Validity

/-!
Statements that are read. Keywords may stand among the names of an accepted declaration, but a
statement that is read uses none of them: it is read as the command for its columns and for a
condition that mirrors its predicate.
-/
namespace RecordStore

open Sql

namespace Sql

/-! ## Names in conditions -/

/-- What is only read behind a name. -/
def Token.AsksForName : Token → Prop
  | .compare _ => True
  | .word name => Schema.sameName name "IS" = true
  | _ => False

def NamesAsked (ls : List Lexeme) : Prop :=
  ∀ before l after, ls = before ++ l :: after → l.token.AsksForName →
    ∃ m c, before.getLast? = some m ∧ IsColumn m c

variable {ls ms : List Lexeme} {l m : Lexeme} {c : ColumnName}

theorem asksForName_iff_of_isKeyword {keyword : String} (h : l.isKeyword keyword = true) :
    l.token.AsksForName ↔ Schema.sameName keyword "IS" = true := by
  obtain ⟨name, word⟩ := token_of_isKeyword h
  simp only [Lexeme.isKeyword, word, Schema.sameName, beq_iff_eq] at h
  simp only [Token.AsksForName, word, Schema.sameName, h]

theorem namesAsked_of_silent (silent : ∀ l ∈ ls, ¬l.token.AsksForName) : NamesAsked ls := by
  rintro before l after rfl asks
  exact absurd asks (silent l (by simp))

theorem NamesAsked.append (first : NamesAsked ls) (second : NamesAsked ms) :
    NamesAsked (ls ++ ms) := by
  intro before l after shape asks
  rcases List.append_eq_append_iff.mp shape with ⟨between, rfl, rest⟩ | ⟨between, rfl, rest⟩
  · obtain ⟨m, c, last, name⟩ := second between l after rest asks
    exact ⟨m, c, by simp [last], name⟩
  · cases between with
    | nil =>
      -- the asking token is the first of the second part, which nothing stands before
      obtain ⟨m, c, last, _⟩ := second [] l after rest.symm asks
      cases last
    | cons n between =>
      obtain ⟨rfl, _⟩ := List.cons.inj rest
      exact first before l between rfl asks

theorem namesAsked_of_isKeyword {keyword : String} (h : l.isKeyword keyword = true)
    (other : Schema.sameName keyword "IS" = false) : NamesAsked [l] := by
  refine namesAsked_of_silent (List.forall_mem_singleton.mpr ?_)
  rw [asksForName_iff_of_isKeyword h, other]
  exact Bool.false_ne_true

/-- Behind a name stands whatever asks for one. -/
theorem namesAsked_of_isColumn (column : IsColumn l c) (m : Lexeme) : NamesAsked [l, m] := by
  rintro before n after shape asks
  match before with
  | [] =>
    obtain ⟨rfl, _⟩ := List.cons.inj shape
    cases column.name with
    | mk word free =>
      rw [word] at asks
      have reserved : isKeyword _ = true :=
        List.any_eq_true.mpr ⟨"IS", by decide, asks⟩
      rw [free] at reserved
      cases reserved
  | [k] =>
    obtain ⟨rfl, _⟩ := List.cons.inj shape
    exact ⟨l, c, rfl, column⟩
  | _ :: _ :: _ => simp at shape

theorem IsTest.namesAsked {t : Test} (test : IsTest ls t) : NamesAsked ls := by
  cases test with
  | @compare l m n c op v name _ operand =>
    have last : NamesAsked [n] := by
      refine namesAsked_of_silent (List.forall_mem_singleton.mpr ?_)
      cases operand with
      | parameter token | text token => exact token ▸ not_false
    exact (namesAsked_of_isColumn name m).append last
  | @isNull l m n c name _ null =>
    exact (namesAsked_of_isColumn name m).append (namesAsked_of_isKeyword null (by decide))
  | @isNotNull l m n o c name _ not null =>
    exact (namesAsked_of_isColumn name m).append
      ((namesAsked_of_isKeyword not (by decide)).append (namesAsked_of_isKeyword null (by decide)))

theorem composes_namesAsked : Composes NamesAsked where
  test := IsTest.namesAsked
  connective word := by
    rcases word with word | word
    · exact namesAsked_of_isKeyword word (by decide)
    · exact namesAsked_of_isKeyword word (by decide)
  group {ls l m} opens _ closes inner := by
    have first : NamesAsked [l] :=
      namesAsked_of_silent (List.forall_mem_singleton.mpr (by rw [opens]; exact not_false))
    have last : NamesAsked [m] :=
      namesAsked_of_silent (List.forall_mem_singleton.mpr (by rw [closes]; exact not_false))
    exact first.append (inner.append last)
  append := NamesAsked.append

/-! ## Parentheses in conditions -/

/-- No parenthesis opens a query, and none is left open at the end. -/
structure GroupsPlain (ls : List Lexeme) : Prop where
  chain : (ls.map Lexeme.token).IsChain Token.OpensNoQuery
  last : ∀ l ∈ ls.getLast?, l.token ≠ .openParen

theorem groupsPlain_of_no_paren (no_paren : ∀ l ∈ ls, l.token ≠ .openParen) : GroupsPlain ls where
  chain := by
    refine List.isChain_iff_getElem.mpr fun i inside opens => ?_
    rw [List.getElem_map] at opens
    exact absurd opens (no_paren _ (List.getElem_mem _))
  last l mem := no_paren l (List.mem_of_getLast? mem)

theorem GroupsPlain.append (first : GroupsPlain ls) (second : GroupsPlain ms) :
    GroupsPlain (ls ++ ms) where
  chain := by
    rw [List.map_append, List.isChain_append]
    refine ⟨first.chain, second.chain, fun t ends _ _ opens => ?_⟩
    rw [List.getLast?_map, Option.mem_def, Option.map_eq_some_iff] at ends
    obtain ⟨l, mem, rfl⟩ := ends
    exact absurd opens (first.last l mem)
  last l mem := by
    rw [List.getLast?_append, Option.mem_def, Option.or_eq_some_iff] at mem
    rcases mem with mem | ⟨_, mem⟩
    · exact second.last l mem
    · exact first.last l mem

theorem no_paren_of_isKeyword {keyword : String} (h : l.isKeyword keyword = true) :
    l.token ≠ .openParen := by
  obtain ⟨name, word⟩ := token_of_isKeyword h
  simp [word]

theorem IsTest.groupsPlain {t : Test} (test : IsTest ls t) : GroupsPlain ls := by
  have column {l : Lexeme} {c : ColumnName} (h : IsColumn l c) : l.token ≠ .openParen := by
    cases h.name with
    | mk word _ => simp [word]
  apply groupsPlain_of_no_paren
  cases test with
  | @compare l m n c op v name compares operand =>
    have value : n.token ≠ .openParen := by
      cases operand with
      | parameter token | text token => simp [token]
    simpa [compares] using ⟨column name, value⟩
  | isNull name is null =>
    simpa using ⟨column name, no_paren_of_isKeyword is, no_paren_of_isKeyword null⟩
  | isNotNull name is not null =>
    simpa using ⟨column name, no_paren_of_isKeyword is, no_paren_of_isKeyword not,
      no_paren_of_isKeyword null⟩

theorem composes_groupsPlain : Composes GroupsPlain where
  test := IsTest.groupsPlain
  connective word := by
    refine groupsPlain_of_no_paren (List.forall_mem_singleton.mpr ?_)
    exact word.elim no_paren_of_isKeyword no_paren_of_isKeyword
  group {ls l m} opens plain closes inner := by
    have last : GroupsPlain [m] :=
      groupsPlain_of_no_paren (List.forall_mem_singleton.mpr (by simp [closes]))
    have whole := inner.append last
    refine ⟨List.isChain_cons.mpr ⟨fun t first _ => ?_, whole.chain⟩, fun n mem => ?_⟩
    · rw [List.map_append, List.head?_append, Option.mem_def, Option.or_eq_some_iff] at first
      rcases first with first | ⟨_, first⟩
      · rw [List.head?_map, Option.map_eq_some_iff] at first
        obtain ⟨n, mem, rfl⟩ := first
        rw [← isKeyword_with]
        exact plain n mem
      · cases first
        rw [closes]
        rfl
    · rw [← List.cons_append, List.getLast?_concat, Option.mem_def, Option.some.injEq] at mem
      subst mem
      simp [closes]
  append := GroupsPlain.append

theorem IsColumn.of_token (column : IsColumn l c) (same : m.token = l.token) :
    IsColumn m ⟨c.name, m.offset⟩ := by
  obtain ⟨⟨word, free⟩, no_term, no_clock⟩ := column
  exact ⟨.mk (same.trans word) free, no_term, no_clock⟩

end Sql

/-! ## Columns in filters -/

section

variable {columns : List Column} {mode : FilterMode} {p : Predicate}

theorem Filter.infix_tokensUnderAnd (p : Predicate) (ts : List Token) :
    ts <:+: tokensUnderAnd p ts := by
  unfold tokensUnderAnd
  split
  · exact ⟨[.openParen], [.closeParen], rfl⟩
  · exact List.infix_rfl

/-- A filter names the column of a comparison in front of what asks for it. -/
theorem Filter.infix_tokens (mode : FilterMode) {k : Comparison} (mem : k ∈ p.comparisons)
    {column : Column} (found : Schema.column? columns k.column = some column) :
    ∃ t, t.AsksForName ∧ [.word column.name, t] <:+: tokens columns mode p := by
  induction p with
  | compare k' =>
    cases List.mem_singleton.mp mem
    have named : tokens columns mode (.compare k) = comparisonTokens mode column.name k := by
      simp [tokens, found]
    have is : (Token.word "IS").AsksForName := (by decide : Schema.sameName "IS" "IS" = true)
    rw [named, comparisonTokens]
    split
    · split
      · exact ⟨.word "IS", is, [], _, rfl⟩
      · exact ⟨.word "IS", is, [], _, rfl⟩
    · exact ⟨.compare k.op, trivial, [], _, rfl⟩
  | and l r left right =>
    rw [tokens]
    rcases List.mem_append.mp mem with mem | mem
    · obtain ⟨t, asks, within⟩ := left mem
      exact ⟨t, asks, (within.trans (infix_tokensUnderAnd l _)).trans
        (List.prefix_append ..).isInfix⟩
    · obtain ⟨t, asks, within⟩ := right mem
      exact ⟨t, asks, (within.trans (infix_tokensUnderAnd r _)).trans
        ((List.suffix_cons ..).isInfix.trans (List.suffix_append ..).isInfix)⟩
  | or l r left right =>
    rw [tokens]
    rcases List.mem_append.mp mem with mem | mem
    · obtain ⟨t, asks, within⟩ := left mem
      exact ⟨t, asks, within.trans (List.prefix_append ..).isInfix⟩
    · obtain ⟨t, asks, within⟩ := right mem
      exact ⟨t, asks, within.trans
        ((List.suffix_cons ..).isInfix.trans (List.suffix_append ..).isInfix)⟩

/-- The columns that a predicate asks for are read as columns, and its parentheses as those of a
condition. -/
theorem Predicate.usesFree_of_namesAsked {ls : List Lexeme} {seen : List Marker}
    (spelled : ls.map Lexeme.token = numbered seen (Filter.tokens columns mode p))
    (asked : NamesAsked ls) (plain : GroupsPlain ls) : p.UsesFree columns mode where
  names := by
    intro k mem column found l here
    obtain ⟨t, asks, before, after, shape⟩ := Filter.infix_tokens mode mem found
    have solid (seen : List Marker) : numbered seen (t :: after)
        = t :: numbered seen after := by
      cases t with
      | compare | word => rfl
      | _ => exact absurd asks not_false
    rw [← shape, List.append_assoc, numbered_append] at spelled
    simp only [List.cons_append, List.nil_append, numbered, solid] at spelled
    obtain ⟨front, back, rfl, _, spelled⟩ := List.map_eq_append_iff.mp spelled
    obtain ⟨l', back, rfl, word, spelled⟩ := List.map_eq_cons_iff.mp spelled
    obtain ⟨m, back, rfl, token, _⟩ := List.map_eq_cons_iff.mp spelled
    obtain ⟨n, c, last, isColumn⟩ := asked (front ++ [l']) m back (by simp) (token ▸ asks)
    cases Option.some.inj (List.getLast?_concat.symm.trans last)
    have read := isColumn.of_token (here.trans word.symm)
    cases isColumn.name with
    | mk word' free =>
      cases word.symm.trans word'
      exact read
  groups := by
    rw [← isChain_numbered seen, ← spelled]
    exact plain.chain

end

/-! ## Statements with a filter -/

section

variable {d : Descriptor} {decl : Declaration} {mode : FilterMode} {p : Predicate} {f : Filter}
  {head : String} {hs : List Token} {Makes : (Option Condition → Command) → Prop}
  {before : List Value} {command : Command}

/-- A text that is read goes on behind its head with the condition of its predicate. -/
theorem Sql.IsHead.usesFree (isHead : IsHead head hs Makes)
    (plain : ∀ c ∈ d.columns, Schema.isIdentifier c.name = true)
    (compiled : Filter.ofPredicate d.columns mode p = .ok f)
    (readable : Filter.IsReadable mode p)
    (read : Command.read (scan (head ++ " WHERE " ++ f.text)) = .ok command) :
    p.UsesFree d.columns mode := by
  have clean :=
    isHead.isOpening.clean_where.append (Filter.clean_ofPredicate plain readable compiled)
  have spelled := token_lexemes (isHead.isOpening.filtered (ScansAs.ofPredicate plain compiled))
  rw [scan_eq_lexemes clean] at read
  generalize lexemes (head ++ " WHERE " ++ f.text) = ls at spelled read
  rw [numbered_append, List.map_eq_append_iff] at spelled
  obtain ⟨front, back, rfl, hfront, hback⟩ := spelled
  simp only [numbered, List.map_eq_cons_iff] at hback
  obtain ⟨l, rest, rfl, opens, hrest⟩ := hback
  obtain ⟨make, _, ofTokens⟩ := isHead.reads front (l :: rest) hfront (by simp [opens])
  obtain ⟨_, whole, _⟩ := bind_eq_ok read
  rw [ofTokens] at whole
  obtain ⟨⟨filter, left⟩, condition, finished⟩ := bind_eq_ok whole
  have last := (semicolon_of_finish finished).2
  rcases isCondition_of_readFilter condition with ⟨_, rfl⟩ | ⟨_, taken, c, _, shape, _, tree⟩
  · have semicolon := last l (List.mem_cons_self ..)
    rw [opens] at semicolon
    cases semicolon
  · have whole := (List.cons.inj shape).2
    refine Predicate.usesFree_of_namesAsked hrest ?_ ?_
    · rw [whole]
      refine (composes_namesAsked.condition tree).append (namesAsked_of_silent fun m mem => ?_)
      exact last m mem ▸ not_false
    · rw [whole]
      refine (composes_groupsPlain.condition tree).append (groupsPlain_of_no_paren fun m mem => ?_)
      simp [last m mem]

/-- A statement with a filter that is read makes its command under a condition that mirrors its
predicate. -/
theorem Command.of_read_filtered (isHead : IsHead head hs Makes)
    (level : before.length = (markersAfter [] hs).length)
    (plain : ∀ c ∈ d.columns, Schema.isIdentifier c.name = true)
    (compiled : Filter.ofPredicate d.columns mode p = .ok f)
    (read : Command.read (scan (head ++ " WHERE " ++ f.text)) = .ok command) :
    ∃ c make, Makes make ∧ command = make (some c) ∧
      c.Mirrors d.columns mode (before ++ f.parameters) p.leftNested := by
  have readable : Filter.IsReadable mode p := by
    by_contra unreadable
    obtain ⟨e, failed⟩ := (Filter.endsQuoted_ofPredicate plain compiled unreadable).not_read isHead
    rw [read] at failed
    cases failed
  have free := isHead.usesFree plain compiled readable read
  obtain ⟨c, make, makes, mirrors, refused, reads, _⟩ :=
    Command.read_filtered isHead level plain free compiled readable
  refine ⟨c, make, makes, ?_, mirrors⟩
  by_cases many : maxParameters < before.length + f.parameters.length
  · obtain ⟨e, failed, _⟩ := refused many
    rw [read] at failed
    cases failed
  · have made := reads (Nat.not_lt.mp many)
    rw [read] at made
    split at made
    · cases made
    · exact Except.ok.inj made

/-! ## Changes -/

theorem Command.read_delete_keyword {ls : List Lexeme} {ts : List Token}
    (spelled : ls.map Lexeme.token
      = numbered [] ([.word "DELETE", .word "FROM", .word d.table] ++ ts))
    (reserved : isKeyword d.table = true) :
    ∃ tokens, Command.read ls = .error (unexpected tokens) := by
  simp only [List.cons_append, List.nil_append, numbered, List.map_eq_cons_iff] at spelled
  obtain ⟨a, _, rfl, ha, b, _, rfl, hb, o, rest, rfl, ho, _⟩ := spelled
  have delete := isKeyword_of_word ha
  have select : a.isKeyword "SELECT" = false := isKeyword_other delete (by decide)
  have insert : a.isKeyword "INSERT" = false := isKeyword_other delete (by decide)
  have update : a.isKeyword "UPDATE" = false := isKeyword_other delete (by decide)
  have failed := readName_of_keyword ho reserved rest
  refine ⟨o :: rest, ?_⟩
  simp only [Command.read, Command.ofTokens, select, insert, update, delete, Bool.false_eq_true,
    if_false, if_true, readDelete, readKeyword_of_isKeyword (isKeyword_of_word hb), failed, ok_bind,
    error_bind]

/-- A DELETE that is read deletes from the table, under the predicate. -/
theorem Command.of_read_delete (accepted : d.IsOf decl)
    (compiled : Filter.ofPredicate d.columns mode p = .ok f)
    (read : Command.read (scan (Statement.delete d f).sql) = .ok command) :
    ∃ c, command = .delete d.table (some c) ∧
      c.Mirrors d.columns mode f.parameters p.leftNested := by
  rw [Statement.delete_eq accepted.columns compiled] at read
  have freeTable : isKeyword d.table = false := by
    by_contra reserved
    obtain ⟨ts, spelled, _⟩ := (isOpening_delete accepted.table).tokens_filtered accepted.columns
      compiled (.inl rfl) []
    obtain ⟨tokens, failed⟩ := read_delete_keyword spelled (Bool.not_eq_false _ ▸ reserved)
    rw [read] at failed
    cases failed
  have level : ([] : List Value).length = (markersAfter []
      [.word "DELETE", .word "FROM", .word d.table]).length := rfl
  obtain ⟨c, make, rfl, made, mirrors⟩ := Command.of_read_filtered
    (isHead_delete accepted.table freeTable) level accepted.columns compiled read
  exact ⟨c, made, mirrors⟩

/-- A keyword among the names of a descriptor is where the reading of its UPDATE ends. -/
theorem Command.read_update_keyword (accepted : d.IsOf decl) {ls : List Lexeme}
    {ts : List Token} (spelled : ls.map Lexeme.token = numbered []
      ((.word "UPDATE" :: .word d.table :: .word "SET" :: assignmentTokens d.columnNames) ++ ts))
    (reserved : isKeyword d.table = true ∨ ∃ c ∈ d.columns, isKeyword c.name = true) :
    ∃ tokens, Command.read ls = .error (unexpected tokens) := by
  obtain ⟨name, rest, shape, distinct, _⟩ := accepted.names
  simp only [List.cons_append, numbered, numbered_append, List.map_eq_cons_iff,
    List.map_eq_append_iff] at spelled
  obtain ⟨a, _, rfl, ha, b, _, rfl, hb, e, _, rfl, he, front, back, rfl, hfront, _⟩ := spelled
  have update := isKeyword_of_word ha
  have select : a.isKeyword "SELECT" = false := isKeyword_other update (by decide)
  have insert : a.isKeyword "INSERT" = false := isKeyword_other update (by decide)
  by_cases freeTable : isKeyword d.table = true
  · have failed := readName_of_keyword hb freeTable (e :: (front ++ back))
    refine ⟨b :: e :: (front ++ back), ?_⟩
    simp only [Command.read, Command.ofTokens, select, insert, update, Bool.false_eq_true, if_false,
      if_true, readUpdate, failed, error_bind]
  · obtain ⟨c, hc, keyword⟩ := reserved.resolve_left freeTable
    obtain ⟨i, here⟩ := List.getElem?_of_mem (List.mem_map_of_mem (f := Column.name) hc)
    have listed : (c.name, i) ∈ d.columnNames.zipIdx := List.mk_mem_zipIdx_iff_getElem?.mpr here
    have unseen : ∀ n ∈ d.columnNames, Marker.named n ∉ ([] : List Marker) :=
      fun _ _ => List.not_mem_nil
    rw [(numbered_assignments (shape ▸ distinct) unseen).1] at hfront
    obtain ⟨tokens, failed⟩ := readItems_of_unread readAssignment
      (fun x : String × Nat => isKeyword x.1 = true) ⟨(c.name, i), listed, keyword⟩
      (by
        rintro ⟨n, i⟩ _ free ls rest chunk
        simp only [List.map_eq_cons_iff, List.map_eq_nil_iff] at chunk
        obtain ⟨a, _, rfl, ha, b, _, rfl, hb, e, _, rfl, he, rfl⟩ := chunk
        exact ⟨_, readAssignment_of_tokens (Bool.eq_false_iff.mpr free) ha hb he rest⟩)
      (by
        rintro ⟨n, i⟩ _ keyword ls rest chunk
        simp only [List.map_eq_cons_iff, List.map_eq_nil_iff] at chunk
        obtain ⟨a, _, rfl, ha, b, _, rfl, hb, e, _, rfl, he, rfl⟩ := chunk
        exact ⟨_, by rw [readAssignment, List.cons_append, readName_of_keyword ha keyword]; rfl⟩)
      hfront back
    have name := readName_of_isName (.mk hb (Bool.eq_false_iff.mpr freeTable))
      (e :: (front ++ back))
    refine ⟨tokens, ?_⟩
    simp only [Command.read, Command.ofTokens, select, insert, update, Bool.false_eq_true, if_false,
      if_true, readUpdate, name, readKeyword_of_isKeyword (isKeyword_of_word he), failed, ok_bind,
      error_bind]

/-- An UPDATE that is read assigns the first parameters to the columns, under the predicate. -/
theorem Command.of_read_update (accepted : d.IsOf decl)
    (compiled : Filter.ofPredicate d.columns mode p = .ok f) {values : List Value}
    (arity : values.length = d.columns.length)
    (read : Command.read (scan (Statement.updateAll d ++ " WHERE " ++ f.text)) = .ok command) :
    ∃ c as, command = .update d.table as (some c) ∧
      assigned as = parametersFrom 0 d.columnNames ∧
      c.Mirrors d.columns mode (values ++ f.parameters) p.leftNested := by
  rcases d.free_or_keyword with ⟨freeTable, free⟩ | reserved
  · obtain ⟨c, make, ⟨as, columns, rfl⟩, made, mirrors⟩ := Command.of_read_filtered
      (isHead_update accepted freeTable free) (level_update accepted arity) accepted.columns
      compiled read
    exact ⟨c, as, made, columns, mirrors⟩
  · obtain ⟨ts, spelled, _⟩ := (isOpening_update accepted).tokens_filtered accepted.columns
      compiled (.inl rfl) []
    obtain ⟨tokens, failed⟩ := read_update_keyword accepted spelled reserved
    rw [read] at failed
    cases failed

/-- An INSERT that is read takes the parameters for the columns. -/
theorem Command.of_read_insert (accepted : d.IsOf decl)
    (read : Command.read (scan (Statement.insertAll d)) = .ok command) :
    ∃ columns, columns.map ColumnName.name = d.columnNames ∧
      command = .insert d.table columns ((List.range d.columns.length).map .parameter) := by
  rcases d.free_or_keyword with ⟨freeTable, free⟩ | reserved
  · obtain ⟨columns, names, refused, reads⟩ := read_insert accepted freeTable free
    refine ⟨columns, names, ?_⟩
    by_cases many : maxParameters < d.columns.length
    · obtain ⟨e, failed, _⟩ := refused many
      rw [read] at failed
      cases failed
    · exact Except.ok.inj (read.symm.trans (reads (Nat.not_lt.mp many)))
  · obtain ⟨tokens, failed⟩ := read_insert_keyword accepted reserved
    rw [read] at failed
    cases failed

end

end RecordStore
