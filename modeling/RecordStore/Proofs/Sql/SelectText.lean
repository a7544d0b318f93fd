import RecordStore.Proofs.Calendar
import RecordStore.Proofs.Predicate.Reading
import RecordStore.Statement

/-!
Statements with a filter. Behind the head of a statement the text of a filter reads as the
condition of its command, and asks for as many parameters as the filter has. So a SELECT asks
for all columns of the rows under the condition.
-/
namespace RecordStore

open Sql

namespace Sql

theorem placeOf_lt (seen : List Marker) (m : Marker) :
    placeOf seen m < (addMarker seen m).length := by
  cases m with
  | anonymous => simp [placeOf, addMarker]
  | named name =>
    simp only [placeOf, addMarker]
    split
    · rename_i mem
      exact List.findIdx_lt_length_of_exists ⟨_, mem, beq_self_eq_true _⟩
    · rw [List.length_append]
      exact Nat.lt_succ_of_le List.findIdx_le_length

theorem length_le_addMarker (seen : List Marker) (m : Marker) :
    seen.length ≤ (addMarker seen m).length := by
  cases m with
  | anonymous => simp [addMarker]
  | named name =>
    simp only [addMarker]
    split <;> simp

theorem length_addMarker_le (seen : List Marker) (m : Marker) :
    (addMarker seen m).length ≤ seen.length + 1 := by
  cases m with
  | anonymous => simp [addMarker]
  | named name =>
    simp only [addMarker]
    split <;> simp

theorem placeOf_of_lt_addMarker {seen : List Marker} {m : Marker}
    (grown : seen.length < (addMarker seen m).length) : placeOf seen m = seen.length := by
  cases m with
  | anonymous => rfl
  | named name =>
    simp only [addMarker] at grown
    split at grown
    · exact absurd grown (Nat.lt_irrefl _)
    · rename_i unseen
      exact List.findIdx_eq_length.mpr fun m mem => by
        simpa using fun same : m = .named name => unseen (same ▸ mem)

theorem length_le_markersAfter (seen : List Marker) (ts : List Token) :
    seen.length ≤ (markersAfter seen ts).length := by
  induction ts generalizing seen with
  | nil => exact Nat.le_refl _
  | cons t ts ih =>
    cases t with
    | placeholder m place => exact Nat.le_trans (length_le_addMarker seen m) (ih _)
    | word | number | text | compare | star | comma | semicolon | openParen | closeParen | other
    | unterminated => exact ih seen

theorem place_lt_of_numbered {seen : List Marker} {ts : List Token} {m : Marker} {place : Nat}
    (mem : Token.placeholder m place ∈ numbered seen ts) :
    place < (markersAfter seen ts).length := by
  induction ts generalizing seen with
  | nil => cases mem
  | cons t ts ih =>
    cases t with
    | placeholder marker _ =>
      rcases List.mem_cons.mp mem with first | later
      · cases first
        exact Nat.lt_of_lt_of_le (placeOf_lt seen m) (length_le_markersAfter _ ts)
      · exact ih later
    | word | number | text | compare | star | comma | semicolon | openParen | closeParen | other
    | unterminated =>
      rcases List.mem_cons.mp mem with first | later
      · cases first
      · exact ih later

theorem mem_numbered_of_lt {seen : List Marker} {ts : List Token} {place : Nat}
    (unseen : seen.length ≤ place) (within : place < (markersAfter seen ts).length) :
    ∃ m, Token.placeholder m place ∈ numbered seen ts := by
  induction ts generalizing seen with
  | nil => exact absurd within (Nat.not_lt.mpr unseen)
  | cons t ts ih =>
    cases t with
    | placeholder m _ =>
      by_cases later : (addMarker seen m).length ≤ place
      · obtain ⟨m', mem⟩ := ih later within
        exact ⟨m', List.mem_cons_of_mem _ mem⟩
      · have here : placeOf seen m = place := by
          have first := placeOf_of_lt_addMarker (Nat.lt_of_le_of_lt unseen (Nat.not_le.mp later))
          have grown := placeOf_lt seen m
          have most := length_addMarker_le seen m
          omega
        exact ⟨m, here ▸ List.mem_cons_self ..⟩
    | word | number | text | compare | star | comma | semicolon | openParen | closeParen | other
    | unterminated =>
      obtain ⟨m', mem⟩ := ih unseen within
      exact ⟨m', List.mem_cons_of_mem _ mem⟩

theorem markersAfter_numbered (seen before : List Marker) (ts : List Token) :
    markersAfter seen (numbered before ts) = markersAfter seen ts := by
  induction ts generalizing seen before with
  | nil => rfl
  | cons t ts ih => cases t <;> simp [numbered, markersAfter, ih]

theorem foldl_markers (seen : List Marker) (ls : List Lexeme) :
    (ls.filterMap Lexeme.marker?).foldl addMarker seen
      = markersAfter seen (ls.map Lexeme.token) := by
  induction ls generalizing seen with
  | nil => rfl
  | cons l ls ih =>
    cases h : l.token <;> simp [Lexeme.marker?, h, markersAfter, ih]

section

variable {ls : List Lexeme} {ts : List Token}

theorem parameterMarkers_of_tokens (spelled : ls.map Lexeme.token = numbered [] ts) :
    parameterMarkers ls = markersAfter [] ts := by
  rw [parameterMarkers, foldl_markers, spelled, markersAfter_numbered]

theorem excessPlaceholder?_eq_none (spelled : ls.map Lexeme.token = numbered [] ts)
    (few : (markersAfter [] ts).length ≤ maxParameters) : excessPlaceholder? ls = none := by
  refine List.find?_eq_none.mpr fun l hl excess => ?_
  cases token : l.token with
  | placeholder m place =>
    have mem : Token.placeholder m place ∈ numbered [] ts := by
      rw [← spelled, ← token]
      exact List.mem_map_of_mem hl
    have within := place_lt_of_numbered mem
    simp only [Lexeme.place?, token, Option.any_some, decide_eq_true_eq] at excess
    omega
  | word | number | text | compare | star | comma | semicolon | openParen | closeParen | other
  | unterminated => simp [Lexeme.place?, token] at excess

theorem excessPlaceholder?_ne_none (spelled : ls.map Lexeme.token = numbered [] ts)
    (many : maxParameters < (markersAfter [] ts).length) : excessPlaceholder? ls ≠ none := by
  intro fits
  obtain ⟨m, mem⟩ := mem_numbered_of_lt (Nat.zero_le _) many
  rw [← spelled] at mem
  obtain ⟨l, hl, token⟩ := List.mem_map.mp mem
  have within := List.find?_eq_none.mp fits l hl
  simp [Lexeme.place?, token] at within

end

end Sql

/-! ## Texts without a zero character -/

def Clean (s : String) : Prop := '\x00' ∉ s.toList

theorem Clean.append {s t : String} (first : Clean s) (second : Clean t) : Clean (s ++ t) := by
  intro mem
  rw [String.toList_append] at mem
  exact (List.mem_append.mp mem).elim first second

theorem clean_of_isNumberChar {s : String} (all : ∀ c ∈ s.toList, isNumberChar c = true) :
    Clean s :=
  fun mem => absurd (all _ mem) (by decide)

theorem clean_of_isIdentifier {s : String} (ok : Schema.isIdentifier s = true) : Clean s :=
  not_mem_of_isIdentifier ok (by decide)

theorem Literal.clean_spelled {l : Literal} (text : ∀ s, l = .text s → Clean s) :
    Clean l.spelled := by
  cases l with
  | null => exact clean_of_isIdentifier (by decide)
  | integer i => exact clean_of_isNumberChar (isNumberChar_toString _)
  | real x => exact clean_of_isNumberChar x.isNumberChar_plainText
  | text s => exact text s rfl
  | date d => exact clean_of_isNumberChar d.isNumberChar_text
  | boolean b =>
    cases b with
    | false => exact (by decide : '\x00' ∉ "0".toList)
    | true => exact (by decide : '\x00' ∉ "1".toList)

theorem Filter.clean_quote {s : String} (clean : Clean s) : Clean (Filter.quote s) := by
  intro mem
  rw [Filter.quote, String.toList_ofList] at mem
  rcases List.mem_cons.mp mem with quote | mem
  · exact absurd quote (by decide)
  rcases List.mem_append.mp mem with inner | quote
  · obtain ⟨c, hc, mem⟩ := List.mem_flatMap.mp inner
    split at mem
    · simp at mem
    · exact clean (List.mem_singleton.mp mem ▸ hc)
  · exact absurd (List.mem_singleton.mp quote) (by decide)

namespace Filter

/-- The literals of a predicate can stand in a text that is read to its end. A placeholder
always can. -/
def IsReadable (mode : FilterMode) (p : Predicate) : Prop :=
  mode = .inline → ∀ k ∈ p.comparisons, ∀ s, k.value = .text s → Clean s

variable {columns : List Column} {mode : FilterMode}

theorem clean_ofComparison (plain : ∀ c ∈ columns, Schema.isIdentifier c.name = true)
    {k : Comparison} {f : Filter} (text : mode = .inline → ∀ s, k.value = .text s → Clean s)
    (h : ofComparison columns mode k = .ok f) : Clean f.text := by
  obtain ⟨column, found, _, shape⟩ := ofComparison_ok h
  have name := clean_of_isIdentifier (plain column (mem_of_column? found))
  rcases shape with ⟨_, _, rfl⟩ | ⟨_, _, rfl⟩ | ⟨value, _, rfl⟩
  · exact name.append (by unfold Clean; decide)
  · exact name.append (by unfold Clean; decide)
  · have symbol : Clean s!" {k.op.symbol} " := by
      unfold Clean
      cases k.op <;> decide
    refine (name.append symbol).append ?_
    cases mode with
    | bound =>
      show Clean "?"
      unfold Clean
      decide
    | inline =>
      have solid : k.value.isNull = false := by
        rw [← Bool.not_eq_true, Literal.isNull_iff]
        exact value
      rw [operand, inlineText_of_not_null solid]
      exact clean_quote (Literal.clean_spelled (text rfl))

theorem clean_underAnd (p : Predicate) {f : Filter} (clean : Clean f.text) :
    Clean (underAnd p f).text := by
  unfold underAnd
  split
  · have opens : Clean "(" := by unfold Clean; decide
    have closes : Clean ")" := by unfold Clean; decide
    exact (opens.append clean).append closes
  · exact clean

theorem clean_ofPredicate (plain : ∀ c ∈ columns, Schema.isIdentifier c.name = true)
    {p : Predicate} {f : Filter} (readable : IsReadable mode p)
    (h : ofPredicate columns mode p = .ok f) : Clean f.text := by
  induction p generalizing f with
  | compare k =>
    exact clean_ofComparison plain
      (fun inline s => readable inline k (List.mem_singleton_self k) s) h
  | and l r left right =>
    obtain ⟨g, hg, h⟩ := bind_eq_ok h
    obtain ⟨i, hi, h⟩ := bind_eq_ok h
    cases Except.ok.inj h
    have first := left (fun inline k mem => readable inline k (List.mem_append_left _ mem)) hg
    have second := right (fun inline k mem => readable inline k (List.mem_append_right _ mem)) hi
    have separator : Clean " AND " := by unfold Clean; decide
    exact ((clean_underAnd l first).append separator).append (clean_underAnd r second)
  | or l r left right =>
    obtain ⟨g, hg, h⟩ := bind_eq_ok h
    obtain ⟨i, hi, h⟩ := bind_eq_ok h
    cases Except.ok.inj h
    have first := left (fun inline k mem => readable inline k (List.mem_append_left _ mem)) hg
    have second := right (fun inline k mem => readable inline k (List.mem_append_right _ mem)) hi
    have separator : Clean " OR " := by unfold Clean; decide
    exact (first.append separator).append second

end Filter

/-! ## Heads of statements -/

namespace Sql

/-- A text that scans to its end as the tokens. -/
structure IsOpening (text : String) (tokens : List Token) : Prop where
  clean : Clean text
  scans : ScansAs text.toList tokens

/-- A text that reads as the beginning of a statement. It is a command once its filter is read,
if there is one behind it. -/
structure IsHead (text : String) (tokens : List Token)
    (Makes : (Option Condition → Command) → Prop) : Prop where
  clean : Clean text
  scans : ScansAs text.toList tokens
  reads : ∀ ls after, ls.map Lexeme.token = numbered [] tokens →
    (∀ l ∈ after.head?, l.token = .word "WHERE") →
    ∃ make, Makes make ∧ Command.ofTokens (ls ++ after)
      = readFilter after >>= fun (filter, rest) => finish (make filter) rest

variable {head text : String} {hs ts : List Token} {Makes : (Option Condition → Command) → Prop}

theorem IsHead.isOpening (isHead : IsHead head hs Makes) : IsOpening head hs :=
  ⟨isHead.clean, isHead.scans⟩

theorem IsOpening.clean_where (opening : IsOpening head hs) : Clean (head ++ " WHERE ") := by
  have whereWord : Clean " WHERE " := by unfold Clean; decide
  exact opening.clean.append whereWord

theorem IsOpening.filtered (opening : IsOpening head hs) (filter : ScansAs text.toList ts) :
    ScansAs (head ++ " WHERE " ++ text).toList (hs ++ .word "WHERE" :: ts) := by
  have spelled : (head ++ " WHERE " ++ text).toList
      = head.toList ++ ' ' :: ("WHERE".toList ++ ' ' :: text.toList) := by simp
  rw [spelled]
  exact opening.scans.keyword (by decide) filter

theorem readFilter_of_isCondition {l : Lexeme} {rest : List Lexeme} {c : Condition}
    (opens : l.token = .word "WHERE") (tree : IsCondition rest c) :
    readFilter (l :: rest) = if maxHeight < c.height then .error ⟨.conditionTooHigh, none⟩
      else .ok (some c, []) := by
  have read := read_of_isCondition tree (stops_nil "AND") (stops_nil "OR")
  rw [List.append_nil] at read
  simp only [readFilter, isKeyword_of_word opens, if_true, read, ok_bind]
  split
  · rfl
  · rfl

/-- The text is of the language, but too large for the engine. -/
def SyntaxError.IsLimit (e : SyntaxError) : Prop :=
  e.cause = .conditionTooHigh ∨ e.cause = .tooManyParameters

end Sql

section

variable {d : Descriptor} {mode : FilterMode} {p : Predicate} {f : Filter} {head : String}
  {hs : List Token} {Makes : (Option Condition → Command) → Prop} {before : List Value}

/-- A statement with a filter asks for the parameters of its head and of the filter, and is read
as a command under the condition, unless these are too many or the condition is too high. -/
theorem Command.read_filtered (isHead : IsHead head hs Makes)
    (level : before.length = (markersAfter [] hs).length)
    (plain : ∀ c ∈ d.columns, Schema.isIdentifier c.name = true) (free : p.UsesFree d.columns mode)
    (compiled : Filter.ofPredicate d.columns mode p = .ok f)
    (readable : Filter.IsReadable mode p) :
    ∃ c make, Makes make ∧ c.Mirrors d.columns mode (before ++ f.parameters) p.leftNested ∧
      (maxParameters < before.length + f.parameters.length →
        ∃ e, Command.read (scan (head ++ " WHERE " ++ f.text)) = .error e ∧ e.IsLimit) ∧
      (before.length + f.parameters.length ≤ maxParameters →
        Command.read (scan (head ++ " WHERE " ++ f.text))
          = if maxHeight < c.height then .error ⟨.conditionTooHigh, none⟩
            else .ok (make (some c))) ∧
      (parameterMarkers (scan (head ++ " WHERE " ++ f.text))).length
        = before.length + f.parameters.length := by
  have nested : Filter.ofPredicate d.columns mode p.leftNested = .ok f := by
    rw [Filter.ofPredicate_leftNested]
    exact compiled
  have clean : Clean (head ++ " WHERE " ++ f.text) :=
    isHead.isOpening.clean_where.append (Filter.clean_ofPredicate plain readable compiled)
  have spelled := token_lexemes (isHead.isOpening.filtered (ScansAs.ofPredicate plain nested))
  have markers : (markersAfter [] (hs ++ .word "WHERE" ::
      Filter.tokens d.columns mode p.leftNested)).length
        = before.length + f.parameters.length := by
    simp only [markersAfter_append, markersAfter, length_markersAfter_tokens nested, level]
  rw [scan_eq_lexemes clean]
  generalize lexemes (head ++ " WHERE " ++ f.text) = ls at spelled ⊢
  have counted := parameterMarkers_of_tokens spelled
  have fits := excessPlaceholder?_eq_none spelled
  have exceeds := excessPlaceholder?_ne_none spelled
  rw [numbered_append, List.map_eq_append_iff] at spelled
  obtain ⟨front, back, rfl, hfront, hback⟩ := spelled
  simp only [numbered, List.map_eq_cons_iff] at hback
  obtain ⟨l, rest, rfl, opens, hrest⟩ := hback
  obtain ⟨make, makes, ofTokens⟩ := isHead.reads front (l :: rest) hfront (by simp [opens])
  obtain ⟨c, tree, mirrors, _⟩ :=
    reads_of_tokens free.leftNested p.leftNested_isLeftNested nested hrest level []
  rw [List.append_nil] at mirrors
  rw [readFilter_of_isCondition opens tree.condition] at ofTokens
  refine ⟨c, make, makes, mirrors, fun many => ?_, fun few => ?_, by rw [counted, markers]⟩
  · rw [← markers] at many
    obtain ⟨l, excess⟩ := Option.ne_none_iff_exists'.mp (exceeds many)
    rw [Command.read, ofTokens, excess]
    split
    · exact ⟨_, rfl, .inl rfl⟩
    · exact ⟨_, rfl, .inr rfl⟩
  · rw [Command.read, ofTokens, fits (Nat.le_trans (Nat.le_of_eq markers) few)]
    split <;> rfl

theorem Filter.tokens_ne_nil (columns : List Column) (mode : FilterMode) (p : Predicate) :
    tokens columns mode p ≠ [] := by
  cases p with
  | compare k =>
    simp only [tokens, comparisonTokens]
    split
    · split <;> simp
    · simp
  | and l r => simp [tokens]
  | or l r => simp [tokens]

theorem Filter.isEmpty_ofPredicate
    (plain : ∀ c ∈ d.columns, Schema.isIdentifier c.name = true)
    (compiled : Filter.ofPredicate d.columns mode p = .ok f) : f.isEmpty = false := by
  refine Bool.eq_false_iff.mpr fun empty => tokens_ne_nil d.columns mode p ?_
  have scans := ScansAs.ofPredicate plain compiled
  have nothing : f.text = "" := by simpa [Filter.isEmpty] using empty
  rw [nothing] at scans
  obtain ⟨ls, last, tokens, read⟩ := scans 0 [] parts_nil
  have none : ls = [] := (List.append_eq_nil_iff.mp read.symm).1
  rw [← tokens, none, List.map_nil]

theorem Statement.filtered_eq (plain : ∀ c ∈ d.columns, Schema.isIdentifier c.name = true)
    (compiled : Filter.ofPredicate d.columns mode p = .ok f) (sql : String)
    (parameters : List Value) :
    filtered sql parameters f = ⟨sql ++ " WHERE " ++ f.text, parameters ++ f.parameters⟩ := by
  rw [filtered, Filter.isEmpty_ofPredicate plain compiled]
  rfl

/-! ## SELECT -/

theorem Statement.select_eq (plain : ∀ c ∈ d.columns, Schema.isIdentifier c.name = true)
    (compiled : Filter.ofPredicate d.columns mode p = .ok f) :
    Statement.select d f = ⟨"SELECT * FROM " ++ d.table ++ " WHERE " ++ f.text, f.parameters⟩ :=
  filtered_eq plain compiled _ []

theorem Sql.isOpening_select {table : String} (plain : Schema.isIdentifier table = true) :
    IsOpening ("SELECT * FROM " ++ table)
      [.word "SELECT", .star, .word "FROM", .word table] where
  clean := by
    have select : Clean "SELECT * FROM " := by unfold Clean; decide
    exact select.append (clean_of_isIdentifier plain)
  scans := by
    have spelled : ("SELECT * FROM " ++ table).toList = "SELECT".toList ++ ' ' :: (['*'] ++ ' ' ::
        ("FROM".toList ++ ' ' :: table.toList)) := by simp
    rw [spelled]
    exact (ScansAs.identifier (by decide)).spaced (ScansAs.star.spaced
      ((ScansAs.identifier (by decide)).spaced (ScansAs.identifier plain)))

theorem Sql.isHead_select {table : String} (plain : Schema.isIdentifier table = true)
    (free : isKeyword table = false) :
    IsHead ("SELECT * FROM " ++ table)
      [.word "SELECT", .star, .word "FROM", .word table] (· = .select none table) where
  clean := (isOpening_select plain).clean
  scans := (isOpening_select plain).scans
  reads := by
    intro ls after spelled _
    simp only [numbered, List.map_eq_cons_iff] at spelled
    obtain ⟨a, _, rfl, ha, b, _, rfl, hb, e, _, rfl, he, o, _, rfl, ho, last⟩ := spelled
    cases List.map_eq_nil_iff.mp last
    refine ⟨_, rfl, ?_⟩
    have name := readName_of_isName (.mk ho free) after
    simp only [List.cons_append, List.nil_append, Command.ofTokens, isKeyword_of_word ha, if_true,
      readSelect, hb, pure, Except.pure, ok_bind, readKeyword_of_isKeyword (isKeyword_of_word he),
      name]

/-- The SELECT of a predicate asks for the parameters that its filter has, and is read as the
command for it, unless these are too many or its condition is too high. -/
theorem Command.read_select (table : Schema.isIdentifier d.table = true)
    (freeTable : isKeyword d.table = false)
    (plain : ∀ c ∈ d.columns, Schema.isIdentifier c.name = true)
    (free : ∀ c ∈ d.columns, isReserved c.name = false)
    (compiled : Filter.ofPredicate d.columns mode p = .ok f)
    (readable : Filter.IsReadable mode p) :
    ∃ c, c.Mirrors d.columns mode f.parameters p.leftNested ∧
      (maxParameters < f.parameters.length →
        ∃ e, Command.read (scan (Statement.select d f).sql) = .error e ∧ e.IsLimit) ∧
      (f.parameters.length ≤ maxParameters → Command.read (scan (Statement.select d f).sql)
        = if maxHeight < c.height then .error ⟨.conditionTooHigh, none⟩
          else .ok (.select none d.table (some c))) ∧
      (parameterMarkers (scan (Statement.select d f).sql)).length = f.parameters.length := by
  have level : ([] : List Value).length = (markersAfter []
      [.word "SELECT", .star, .word "FROM", .word d.table]).length := rfl
  obtain ⟨c, make, rfl, mirrors, refused, reads, needed⟩ :=
    Command.read_filtered (isHead_select table freeTable) level plain (p.usesFree_of_free free)
      compiled readable
  simp only [List.length_nil, Nat.zero_add, List.nil_append] at mirrors refused reads needed
  rw [Statement.select_eq plain compiled]
  exact ⟨c, mirrors, refused, reads, needed⟩

end

end RecordStore
