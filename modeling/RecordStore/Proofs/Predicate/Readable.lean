import RecordStore.Proofs.Sql.Blindness
import RecordStore.Proofs.Sql.SelectText

/-!
Literals that cannot stand in a text. A zero character ends the text inside the quotes of its
literal, and no statement is read from a text with an open quote.
-/
namespace RecordStore

open Sql

namespace Sql

/-! ## Readers take no open quote -/

def Closed (ls : List Lexeme) : Prop := ∀ l ∈ ls, l.token ≠ .unterminated

variable {ls ms rest : List Lexeme}

theorem Closed.append (first : Closed ls) (second : Closed ms) : Closed (ls ++ ms) :=
  List.forall_mem_append.mpr ⟨first, second⟩

theorem closed_singleton {l : Lexeme} (token : l.token ≠ .unterminated) : Closed [l] :=
  List.forall_mem_singleton.mpr token

theorem closed_of_isKeyword {l : Lexeme} {keyword : String} (h : l.isKeyword keyword = true) :
    Closed [l] := by
  obtain ⟨name, word⟩ := token_of_isKeyword h
  exact closed_singleton (by simp [word])

theorem IsTest.closed {t : Test} (test : IsTest ls t) : Closed ls := by
  have name {l : Lexeme} {c : ColumnName} (h : IsName l c) : Closed [l] := by
    cases h with
    | mk word _ => exact closed_singleton (by simp [word])
  have operand {l : Lexeme} {v : Operand} (h : IsOperand l v) : Closed [l] := by
    cases h with
    | parameter token | text token => exact closed_singleton (by simp [token])
  cases test with
  | compare column op value =>
    exact (name column.name).append ((closed_singleton (by simp [op])).append (operand value))
  | isNull column is null =>
    exact (name column.name).append ((closed_of_isKeyword is).append (closed_of_isKeyword null))
  | isNotNull column is not null =>
    exact (name column.name).append ((closed_of_isKeyword is).append
      ((closed_of_isKeyword not).append (closed_of_isKeyword null)))

theorem composes_closed : Composes Closed where
  test := IsTest.closed
  connective word := word.elim closed_of_isKeyword closed_of_isKeyword
  group opens _ closes inner := (closed_singleton (by simp [opens])).append
    (inner.append (closed_singleton (by simp [closes])))
  append := Closed.append

/-- What a filter is read from: nothing, or a condition behind WHERE. -/
theorem isCondition_of_readFilter {filter : Option Condition}
    (read : readFilter ls = .ok (filter, rest)) :
    filter = none ∧ ls = rest ∨ ∃ l taken c, filter = some c ∧ ls = l :: (taken ++ rest) ∧
      l.isKeyword "WHERE" = true ∧ IsCondition taken c := by
  cases ls with
  | nil =>
    cases read
    exact .inl ⟨rfl, rfl⟩
  | cons l ls =>
    rw [readFilter] at read
    split at read
    · rename_i whereWord
      obtain ⟨⟨c, _⟩, condition, last⟩ := bind_eq_ok read
      obtain ⟨taken, rfl, tree⟩ := isCondition_of_readCondition _ condition
      dsimp only at last
      split at last
      · cases last
      · cases last
        exact .inr ⟨l, taken, c, rfl, rfl, whereWord, tree⟩
    · cases read
      exact .inl ⟨rfl, rfl⟩

/-- Nothing but a semicolon may stand behind a statement. -/
theorem semicolon_of_finish {command result : Command} (read : finish command ls = .ok result) :
    result = command ∧ ∀ l ∈ ls, l.token = .semicolon := by
  match ls, read with
  | [], read =>
    cases read
    exact ⟨rfl, fun _ => nofun⟩
  | [l], read =>
    rw [finish] at read
    split at read
    · rename_i semicolon
      cases read
      exact ⟨rfl, List.forall_mem_singleton.mpr semicolon⟩
    · cases read
  | l :: m :: rest, read =>
    simp only [finish] at read
    split at read
    · cases read
    · cases read

end Sql

/-! ## Texts that end in quotes -/

namespace Sql

/-- The first zero character of a text comes behind an open quote. -/
def EndsQuoted (cs : List Char) : Prop :=
  '\x00' ∈ cs ∧ ∃ before ts content, ScansAs before ts ∧
    cs.takeWhile (· != '\x00') = before ++ ' ' :: '\'' :: Filter.escapeQuotes content

variable {cs ds : List Char} {ts : List Token}

theorem takeWhile_of_mem (zero : '\x00' ∈ cs) (ds : List Char) :
    (cs ++ ds).takeWhile (· != '\x00') = cs.takeWhile (· != '\x00') := by
  rw [List.takeWhile_append, if_neg]
  intro whole
  have same := (List.takeWhile_prefix (· != '\x00')).eq_of_length whole
  rw [← same] at zero
  exact absurd (List.all_eq_true.mp List.all_takeWhile _ zero) (by decide)

theorem takeWhile_of_not_mem (clean : '\x00' ∉ cs) (ds : List Char) :
    (cs ++ ds).takeWhile (· != '\x00') = cs ++ ds.takeWhile (· != '\x00') :=
  List.takeWhile_append_of_pos fun _ mem =>
    bne_iff_ne.mpr fun zero => clean (zero ▸ mem)

theorem takeWhile_escapeQuotes (cs : List Char) :
    (Filter.escapeQuotes cs).takeWhile (· != '\x00')
      = Filter.escapeQuotes (cs.takeWhile (· != '\x00')) := by
  induction cs with
  | nil => rfl
  | cons c cs ih =>
    by_cases quote : c = '\''
    · subst quote
      simp only [escapeQuotes_quote, List.takeWhile_cons, ih]
      rfl
    · by_cases zero : c = '\x00'
      · subst zero
        rfl
      · have other : (c != '\x00') = true := bne_iff_ne.mpr zero
        simp only [escapeQuotes_other quote, List.takeWhile_cons, other, if_true, ih]

namespace EndsQuoted

theorem append (ends : EndsQuoted cs) (ds : List Char) : EndsQuoted (cs ++ ds) := by
  obtain ⟨zero, before, ts, content, scans, cut⟩ := ends
  exact ⟨List.mem_append_left _ zero, before, ts, content, scans,
    (takeWhile_of_mem zero ds).trans cut⟩

theorem spaced (ends : EndsQuoted ds) (scans : ScansAs cs ts) (clean : '\x00' ∉ cs) :
    EndsQuoted (cs ++ ' ' :: ds) := by
  obtain ⟨zero, before, us, content, scans', cut⟩ := ends
  refine ⟨List.mem_append_right _ (List.mem_cons_of_mem _ zero), cs ++ ' ' :: before, _, content,
    scans.spaced scans', ?_⟩
  rw [takeWhile_of_not_mem clean, List.takeWhile_cons_of_pos (by decide), cut, List.append_assoc,
    List.cons_append]

theorem openParen (ends : EndsQuoted cs) : EndsQuoted ('(' :: cs) := by
  obtain ⟨zero, before, ts, content, scans, cut⟩ := ends
  refine ⟨List.mem_cons_of_mem _ zero, '(' :: before, _, content, scans.openParen, ?_⟩
  rw [List.takeWhile_cons_of_pos (by decide), cut, List.cons_append]

theorem quote (scans : ScansAs cs ts) (clean : '\x00' ∉ cs) {s : String} (unclean : ¬ Clean s) :
    EndsQuoted (cs ++ ' ' :: (Filter.quote s).toList) := by
  have inside : '\x00' ∈ s.toList := Classical.not_not.mp unclean
  have kept : '\x00' ∈ Filter.escapeQuotes s.toList :=
    List.mem_flatMap.mpr ⟨'\x00', inside, by simp⟩
  have spelled : (Filter.quote s).toList = '\'' :: (Filter.escapeQuotes s.toList ++ ['\'']) := by
    rw [Filter.quote, String.toList_ofList]
    rfl
  rw [spelled]
  refine ⟨by simp [kept], cs, ts, s.toList.takeWhile (· != '\x00'), scans, ?_⟩
  rw [takeWhile_of_not_mem clean, List.takeWhile_cons_of_pos (by decide),
    List.takeWhile_cons_of_pos (by decide), takeWhile_of_mem kept, takeWhile_escapeQuotes]

end EndsQuoted

theorem readQuoted_escapeQuotes_open (cs : List Char) :
    readQuoted (Filter.escapeQuotes cs) = none := by
  induction cs with
  | nil => rfl
  | cons c cs ih =>
    by_cases quote : c = '\''
    · subst quote
      rw [escapeQuotes_quote, readQuoted, ih]
      rfl
    · rw [escapeQuotes_other quote, readQuoted.eq_4 _ _ (by simp [quote]) (by simp [quote]), ih]
      rfl

theorem isQuoted_firstToken (rest : List Char) : (firstToken '\'' rest).1.isQuoted = true := by
  simp only [firstToken]
  split <;> rfl

/-- Behind the tokens of its first part, a text has what stands in quotes there. -/
theorem ScansAs.eq_append_quoted (text : ScansAs (cs ++ ' ' :: '\'' :: ds) ts) {us : List Token}
    (front : ScansAs cs us) : ∃ q vs, q.isQuoted = true ∧ ts = us ++ q :: vs := by
  obtain ⟨ls, last, tokens, scanned⟩ := text 0 [] parts_nil
  obtain ⟨ms, middle, before, scanned'⟩ := front 0 (' ' :: '\'' :: ds) (parts_blank _)
  have quoted := isQuoted_firstToken ds
  rcases first : firstToken '\'' ds with ⟨q, after⟩
  rw [first] at quoted
  obtain ⟨spelling, offset, quotes⟩ :=
    lexemesFrom_token (by decide : isBlank '\'' = false) first (middle + ' '.utf8Size)
  rw [List.append_nil, scanned', lexemesFrom_nil, List.append_nil,
    lexemesFrom_blank (by decide), quotes] at scanned
  refine ⟨q, (lexemesFrom offset after).map Lexeme.token, quoted, ?_⟩
  rw [← tokens, ← before, ← scanned, List.map_append, List.map_cons]

/-- A statement whose filter ends in quotes is cut there: the open quote is its last token. -/
theorem EndsQuoted.token_scan {head text : String} {hs : List Token}
    (ends : EndsQuoted text.toList) (opening : IsOpening head hs) :
    ∃ ts, (∀ us, ScansAs text.toList us → ∃ q vs, q.isQuoted = true ∧ us = ts ++ q :: vs) ∧
      (scan (head ++ " WHERE " ++ text)).map Lexeme.token
        = numbered [] (hs ++ .word "WHERE" :: (ts ++ [.unterminated])) := by
  obtain ⟨_, before, ts, content, scans, cut⟩ := ends
  have shown : effective (head ++ " WHERE " ++ text) = head.toList ++ ' ' :: ("WHERE".toList ++
      ' ' :: before) ++ ' ' :: '\'' :: Filter.escapeQuotes content := by
    have clean : '\x00' ∉ (head ++ " WHERE ").toList := opening.clean_where
    rw [effective, String.toList_append, takeWhile_of_not_mem clean, cut]
    simp
  have front : ScansAs (head.toList ++ ' ' :: ("WHERE".toList ++ ' ' :: before))
      (hs ++ .word "WHERE" :: ts) := opening.scans.keyword (by decide) scans
  obtain ⟨ls, last, tokens, scanned⟩ :=
    front 0 (' ' :: '\'' :: Filter.escapeQuotes content) (parts_blank _)
  have opened : firstToken '\'' (Filter.escapeQuotes content) = (.unterminated, []) := by
    simp only [firstToken, readQuoted_escapeQuotes_open]
  obtain ⟨spelling, offset, final⟩ := lexemesFrom_token (by decide : isBlank '\'' = false) opened
    (last + ' '.utf8Size)
  rw [lexemesFrom_blank (by decide), final, lexemesFrom_nil] at scanned
  refine ⟨ts, fun us whole => ?_, ?_⟩
  · have split := List.takeWhile_append_dropWhile (p := (· != '\x00')) (l := text.toList)
    rw [cut, List.append_assoc] at split
    rw [← split] at whole
    exact whole.eq_append_quoted scans
  · rw [scan, shown]
    refine (token_numberFrom ..).trans (congrArg _ ?_)
    refine (congrArg (List.map Lexeme.token) scanned).trans ?_
    simp [tokens]

/-- A statement whose filter ends in quotes is not read. -/
theorem EndsQuoted.not_read {head text : String} {hs : List Token}
    {Makes : (Option Condition → Command) → Prop} (ends : EndsQuoted text.toList)
    (isHead : IsHead head hs Makes) :
    ∃ e, Command.read (scan (head ++ " WHERE " ++ text)) = .error e := by
  obtain ⟨ts, _, spelled⟩ := ends.token_scan isHead.isOpening
  generalize scan (head ++ " WHERE " ++ text) = all at spelled
  rw [numbered_append, List.map_eq_append_iff] at spelled
  obtain ⟨first, back, rfl, hfirst, hback⟩ := spelled
  simp only [numbered, numbered_append, List.map_eq_cons_iff, List.map_eq_append_iff] at hback
  obtain ⟨l, _, rfl, hl, middle, _, rfl, _, o, behind, rfl, ho, _⟩ := hback
  obtain ⟨make, _, ofTokens⟩ := isHead.reads first (l :: _) hfirst (by simp [hl])
  cases read : Command.ofTokens (first ++ l :: (middle ++ o :: _)) with
  | error e => exact ⟨e, by rw [Command.read, read]; rfl⟩
  | ok command =>
    rw [ofTokens] at read
    obtain ⟨⟨filter, rest⟩, condition, finished⟩ := bind_eq_ok read
    have last : Closed rest := fun m mem => by simp [(semicolon_of_finish finished).2 m mem]
    have within : o ∈ middle ++ o :: behind := by simp
    rcases isCondition_of_readFilter condition with ⟨_, rfl⟩ | ⟨_, taken, c, _, shape, _, tree⟩
    · exact absurd ho (last o (List.mem_cons_of_mem _ within))
    · have whole : Closed (taken ++ rest) := (composes_closed.condition tree).append last
      rw [(List.cons.inj shape).2] at within
      exact absurd ho (whole o within)

end Sql

namespace Filter

variable {columns : List Column} {mode : FilterMode} {p : Predicate} {f : Filter}

theorem isReadable_append {l r q : Predicate}
    (comparisons : q.comparisons = l.comparisons ++ r.comparisons)
    (left : IsReadable mode l) (right : IsReadable mode r) : IsReadable mode q := by
  intro inline k mem
  rw [comparisons] at mem
  rcases List.mem_append.mp mem with mem | mem
  · exact left inline k mem
  · exact right inline k mem

theorem endsQuoted_ofComparison (plain : ∀ c ∈ columns, Schema.isIdentifier c.name = true)
    {k : Comparison} (h : ofComparison columns mode k = .ok f)
    (unreadable : ¬ IsReadable mode (.compare k)) : EndsQuoted f.text.toList := by
  obtain ⟨column, found, _, shape⟩ := ofComparison_ok h
  obtain ⟨inline, s, text, unclean⟩ : mode = .inline ∧ ∃ s, k.value = .text s ∧ ¬ Clean s := by
    simpa [IsReadable, Predicate.comparisons] using unreadable
  have name := plain column (mem_of_column? found)
  rcases shape with ⟨null, _⟩ | ⟨null, _⟩ | ⟨_, _, rfl⟩
  · rw [text] at null
    cases null
  · rw [text] at null
    cases null
  · have spelled : ((⟨column.name, []⟩ : Filter).joined s!" {k.op.symbol} "
        (operand mode k.value)).text.toList
          = (column.name.toList ++ ' ' :: k.op.symbol.toList) ++ ' ' :: (quote s).toList := by
      simp [joined, toString, operand, inline, text, inlineText]
    rw [spelled]
    refine EndsQuoted.quote ((ScansAs.identifier name).spaced (ScansAs.symbol k.op)) ?_ unclean
    intro zero
    rcases List.mem_append.mp zero with zero | zero
    · exact clean_of_isIdentifier name zero
    · revert zero
      cases k.op <;> decide

theorem endsQuoted_underAnd (p : Predicate) (ends : EndsQuoted f.text.toList) :
    EndsQuoted (underAnd p f).text.toList := by
  unfold underAnd
  split
  · have spelled : f.parenthesized.text.toList = '(' :: (f.text.toList ++ [')']) := by
      simp [parenthesized]
    rw [spelled]
    exact (ends.append _).openParen
  · exact ends

theorem endsQuoted_joined_left (ends : EndsQuoted f.text.toList) (separator : String)
    (g : Filter) : EndsQuoted (f.joined separator g).text.toList := by
  simp only [joined, String.toList_append]
  exact (ends.append _).append _

theorem endsQuoted_joined_right {g : Filter} {ts : List Token} {word separator : String}
    (plain : Schema.isIdentifier word = true)
    (spaced : separator.toList = ' ' :: (word.toList ++ [' '])) (scans : ScansAs f.text.toList ts)
    (clean : Clean f.text) (ends : EndsQuoted g.text.toList) :
    EndsQuoted (f.joined separator g).text.toList := by
  have spelled : (f.joined separator g).text.toList
      = f.text.toList ++ ' ' :: (word.toList ++ ' ' :: g.text.toList) := by
    simp [joined, spaced]
  rw [spelled]
  exact (ends.spaced (ScansAs.identifier plain) (clean_of_isIdentifier plain)).spaced scans clean

/-- A filter with a literal that cannot stand in it ends within that literal. -/
theorem endsQuoted_ofPredicate (plain : ∀ c ∈ columns, Schema.isIdentifier c.name = true)
    (h : ofPredicate columns mode p = .ok f) (unreadable : ¬ IsReadable mode p) :
    EndsQuoted f.text.toList := by
  induction p generalizing f with
  | compare k => exact endsQuoted_ofComparison plain h unreadable
  | and l r left right =>
    obtain ⟨g, hg, h⟩ := bind_eq_ok h
    obtain ⟨i, hi, h⟩ := bind_eq_ok h
    cases Except.ok.inj h
    by_cases readable : IsReadable mode l
    · have later : ¬ IsReadable mode r := fun also =>
        unreadable (isReadable_append rfl readable also)
      have clean := clean_underAnd l (clean_ofPredicate plain readable hg)
      exact endsQuoted_joined_right (by decide : Schema.isIdentifier "AND" = true) rfl
        (ScansAs.ofPredicate plain hg).underAnd clean (endsQuoted_underAnd r (right hi later))
    · exact endsQuoted_joined_left (endsQuoted_underAnd l (left hg readable)) _ _
  | or l r left right =>
    obtain ⟨g, hg, h⟩ := bind_eq_ok h
    obtain ⟨i, hi, h⟩ := bind_eq_ok h
    cases Except.ok.inj h
    by_cases readable : IsReadable mode l
    · have later : ¬ IsReadable mode r := fun also =>
        unreadable (isReadable_append rfl readable also)
      exact endsQuoted_joined_right (by decide : Schema.isIdentifier "OR" = true) rfl
        (ScansAs.ofPredicate plain hg) (clean_ofPredicate plain readable hg) (right hi later)
    · exact endsQuoted_joined_left (left hg readable) _ _

end Filter

end RecordStore
