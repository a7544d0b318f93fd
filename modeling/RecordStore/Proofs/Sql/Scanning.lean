import RecordStore.Predicate.Filter
import RecordStore.Sql.Command

/-!
What a text scans as. Pieces of text are put together from left to right: a piece scans as
its tokens whatever follows it, as long as what follows does not run into its last token.
-/
namespace RecordStore.Sql

theorem readQuoted_length {cs content rest : List Char}
    (read : readQuoted cs = some (content, rest)) : rest.length ≤ cs.length := by
  fun_induction readQuoted cs generalizing content with
  | case1 => cases read
  | case2 r ih =>
    obtain ⟨⟨inner, after⟩, hr, h⟩ := Option.map_eq_some_iff.mp read
    cases h
    have := ih hr
    simp only [List.length_cons]
    omega
  | case3 r _ =>
    cases read
    simp
  | case4 c r _ _ ih =>
    obtain ⟨⟨inner, after⟩, hr, h⟩ := Option.map_eq_some_iff.mp read
    cases h
    have := ih hr
    simp only [List.length_cons]
    omega

theorem firstToken_length (c : Char) (rest : List Char) :
    (firstToken c rest).2.length ≤ rest.length := by
  have dropped (p : Char → Bool) : (rest.dropWhile p).length ≤ rest.length :=
    (List.dropWhile_suffix p).length_le
  unfold firstToken
  split
  case h_1 =>
    split
    case h_1 content after read => exact readQuoted_length read
    case h_2 => exact Nat.zero_le _
  case h_2 => simp
  case h_12 =>
    dsimp only
    split
    · exact Nat.le_refl _
    · exact dropped isWordChar
  case h_13 =>
    split
    · exact dropped isWordChar
    split
    · exact dropped Char.isDigit
    · exact Nat.le_refl _
  all_goals exact Nat.le_refl _

/-- More fuel than characters changes nothing. -/
theorem scanFrom_of_length_le (fuel : Nat) {offset : Nat} {cs : List Char}
    (enough : cs.length ≤ fuel) : scanFrom fuel offset cs = scanFrom cs.length offset cs := by
  induction fuel using Nat.strongRecOn generalizing offset cs with
  | ind fuel ih =>
    cases cs with
    | nil => cases fuel <;> rfl
    | cons c rest =>
      cases fuel with
      | zero => simp at enough
      | succ fuel =>
        have short : rest.length ≤ fuel := by simpa using enough
        have after := firstToken_length c rest
        simp only [scanFrom, List.length_cons]
        split
        · exact ih fuel (Nat.lt_succ_self fuel) short
        · rw [ih fuel (Nat.lt_succ_self fuel) (Nat.le_trans after short)]
          rcases Nat.lt_or_ge rest.length (fuel + 1) with less | equal
          · rw [ih rest.length less after]
          · omega

def lexemesFrom (offset : Nat) (cs : List Char) : List Lexeme := scanFrom cs.length offset cs

@[simp] theorem lexemesFrom_nil (offset : Nat) : lexemesFrom offset [] = [] := rfl

theorem lexemesFrom_blank {c : Char} (blank : isBlank c = true) (offset : Nat)
    (rest : List Char) :
    lexemesFrom offset (c :: rest) = lexemesFrom (offset + c.utf8Size) rest := by
  simp only [lexemesFrom, List.length_cons, scanFrom, blank, if_true]

theorem lexemesFrom_token {c : Char} {rest after : List Char} {token : Token}
    (solid : isBlank c = false) (first : firstToken c rest = (token, after)) (offset : Nat) :
    ∃ spelling offset', lexemesFrom offset (c :: rest) =
      ⟨token, spelling, offset⟩ :: lexemesFrom offset' after := by
  have short : after.length ≤ rest.length := by
    simpa only [first] using firstToken_length c rest
  let spelling := (c :: rest).take (rest.length + 1 - after.length)
  refine ⟨spelling, offset + byteCount spelling, ?_⟩
  simp only [lexemesFrom, List.length_cons, scanFrom, solid, first, Bool.false_eq_true, if_false]
  rw [scanFrom_of_length_le rest.length short]

/-- Whether a text that begins so leaves the token before it alone. -/
def Parts (rest : List Char) : Prop :=
  ∀ c ∈ rest.head?, isWordChar c = false ∧ c ≠ '\'' ∧ c ≠ '>'

theorem parts_nil : Parts [] := by simp [Parts]

theorem parts_cons {c : Char} {rest : List Char} (word : isWordChar c = false)
    (quote : c ≠ '\'') (greater : c ≠ '>') : Parts (c :: rest) := by
  intro d hd
  cases Option.some.inj hd
  exact ⟨word, quote, greater⟩

theorem parts_blank (rest : List Char) : Parts (' ' :: rest) :=
  parts_cons (by decide) (by decide) (by decide)

theorem parts_append {cs rest : List Char} (first : Parts cs) (second : Parts rest) :
    Parts (cs ++ rest) := by
  cases cs with
  | nil => exact second
  | cons c cs => exact first

/-- A piece of text scans as the tokens, in front of everything that leaves it alone. -/
def ScansAs (cs : List Char) (tokens : List Token) : Prop :=
  ∀ offset rest, Parts rest → ∃ ls offset', ls.map Lexeme.token = tokens ∧
    lexemesFrom offset (cs ++ rest) = ls ++ lexemesFrom offset' rest

namespace ScansAs

theorem nil : ScansAs [] [] := fun offset _ _ => ⟨[], offset, rfl, rfl⟩

theorem append {cs ds : List Char} {ts us : List Token} (first : ScansAs cs ts)
    (second : ScansAs ds us) (apart : Parts ds) : ScansAs (cs ++ ds) (ts ++ us) := by
  intro offset rest ends
  obtain ⟨ls, middle, hl, left⟩ := first offset (ds ++ rest) (parts_append apart ends)
  obtain ⟨ms, last, hm, right⟩ := second middle rest ends
  refine ⟨ls ++ ms, last, by simp [hl, hm], ?_⟩
  rw [List.append_assoc, left, right, List.append_assoc]

theorem blank {cs : List Char} {ts : List Token} (text : ScansAs cs ts) :
    ScansAs (' ' :: cs) ts := by
  intro offset rest ends
  obtain ⟨ls, last, hl, scan⟩ := text (offset + ' '.utf8Size) rest ends
  exact ⟨ls, last, hl, by rw [List.cons_append, lexemesFrom_blank (by decide), scan]⟩

theorem ofFirst {c : Char} {cs : List Char} {token : Token} (solid : isBlank c = false)
    (first : ∀ rest, Parts rest → firstToken c (cs ++ rest) = (token, rest)) :
    ScansAs (c :: cs) [token] := by
  intro offset rest ends
  obtain ⟨spelling, last, scan⟩ := lexemesFrom_token solid (first rest ends) offset
  exact ⟨[⟨token, spelling, offset⟩], last, rfl, scan⟩

theorem cons {c : Char} {token : Token} (solid : isBlank c = false)
    (first : ∀ rest, firstToken c rest = (token, rest)) {cs : List Char} {ts : List Token}
    (text : ScansAs cs ts) : ScansAs (c :: cs) (token :: ts) := by
  intro offset rest ends
  obtain ⟨spelling, middle, scan⟩ := lexemesFrom_token solid (first (cs ++ rest)) offset
  obtain ⟨ls, last, hl, more⟩ := text middle rest ends
  exact ⟨⟨token, spelling, offset⟩ :: ls, last, by simp [hl],
    by rw [List.cons_append, scan, more, List.cons_append]⟩

theorem openParen {cs : List Char} {ts : List Token} (text : ScansAs cs ts) :
    ScansAs ('(' :: cs) (.openParen :: ts) :=
  text.cons (by decide) fun _ => rfl

theorem comma {cs : List Char} {ts : List Token} (text : ScansAs cs ts) :
    ScansAs (',' :: cs) (.comma :: ts) :=
  text.cons (by decide) fun _ => rfl

theorem closeParen : ScansAs [')'] [.closeParen] :=
  ofFirst (by decide) fun _ _ => rfl

theorem star : ScansAs ['*'] [.star] :=
  ofFirst (by decide) fun _ _ => rfl

theorem placeholder : ScansAs ['?'] [.placeholder .anonymous 0] :=
  ofFirst (by decide) fun _ _ => rfl

theorem symbol (op : CompareOp) : ScansAs op.symbol.toList [.compare op] := by
  cases op with
  | eq => exact ofFirst (by decide) fun _ _ => rfl
  | ne => exact ofFirst (by decide) fun _ _ => rfl
  | gt => exact ofFirst (by decide) fun _ _ => rfl
  | lt =>
    have spelled : CompareOp.lt.symbol.toList = ['<'] := rfl
    rw [spelled]
    refine ofFirst (by decide) fun rest ends => ?_
    cases rest with
    | nil => rfl
    | cons c rest => exact firstToken.eq_3 (c :: rest) fun _ h => (ends c rfl).2.2 (by simp_all)

end ScansAs

theorem isBlank_of_isWordStart {c : Char} (start : isWordStart c = true) :
    isBlank c = false := by
  by_cases blank : isBlank c = true
  · simp only [isBlank, Bool.or_eq_true, beq_iff_eq] at blank
    obtain (((rfl | rfl) | rfl) | rfl) | rfl := blank <;> revert start <;> decide
  · exact Bool.eq_false_iff.mpr blank

theorem firstToken_word {c : Char} (start : isWordStart c = true) (rest : List Char) :
    firstToken c rest = (.word (String.ofList (c :: rest.takeWhile isWordChar)),
      rest.dropWhile isWordChar) := by
  unfold firstToken
  split
  case h_13 => rw [if_pos start]
  all_goals exact absurd start (by decide)

theorem takeWhile_parts {word rest : List Char} (all : ∀ c ∈ word, isWordChar c = true)
    (ends : Parts rest) : (word ++ rest).takeWhile isWordChar = word := by
  rw [List.takeWhile_append_of_pos all]
  cases rest with
  | nil => simp
  | cons c rest => simp [(ends c rfl).1]

theorem dropWhile_parts {word rest : List Char} (all : ∀ c ∈ word, isWordChar c = true)
    (ends : Parts rest) : (word ++ rest).dropWhile isWordChar = rest := by
  rw [List.dropWhile_append_of_pos all]
  cases rest with
  | nil => simp
  | cons c rest => simp [(ends c rfl).1]

theorem ScansAs.word {c : Char} {cs : List Char} (start : isWordStart c = true)
    (all : ∀ d ∈ cs, isWordChar d = true) :
    ScansAs (c :: cs) [.word (String.ofList (c :: cs))] := by
  refine ofFirst (isBlank_of_isWordStart start) fun rest ends => ?_
  rw [firstToken_word start, takeWhile_parts all ends, dropWhile_parts all ends]

theorem isWordStart_of_isLetter {d : Char} (letter : Schema.isLetter d = true) :
    isWordStart d = true := by
  simp only [Schema.isLetter, Bool.or_eq_true, beq_iff_eq] at letter
  rcases letter with alpha | rfl
  · have digit : d.isDigit = false := by
      have inRange : (decide ('A'.val ≤ d.val ∧ d.val ≤ 'Z'.val) ||
          decide ('a'.val ≤ d.val) && decide (d.val ≤ 'z'.val)) = true := alpha
      simp only [Bool.or_eq_true, Bool.and_eq_true, decide_eq_true_eq] at inRange
      simp only [Char.isDigit, Bool.and_eq_false_iff, decide_eq_false_iff_not]
      grind
    have dollar : d ≠ '$' := by rintro rfl; revert alpha; decide
    simp [isWordStart, isWordChar, Char.isAlphanum, alpha, digit, dollar]
  · decide

theorem isWordChar_of_isIdentifier {name : String} (ok : Schema.isIdentifier name = true) :
    ∃ c cs, name.toList = c :: cs ∧ isWordStart c = true ∧ ∀ d ∈ cs, isWordChar d = true := by
  cases shape : name.toList with
  | nil => simp [Schema.isIdentifier, shape] at ok
  | cons c cs =>
    simp only [Schema.isIdentifier, shape, Bool.and_eq_true, List.all_eq_true] at ok
    refine ⟨c, cs, rfl, isWordStart_of_isLetter ok.1, fun d hd => ?_⟩
    rcases Bool.or_eq_true _ _ ▸ ok.2 d hd with letter | digit
    · have start := isWordStart_of_isLetter letter
      simp only [isWordStart, Bool.and_eq_true] at start
      exact start.1.1
    · simp [isWordChar, Char.isAlphanum, digit]

theorem not_mem_of_isIdentifier {name : String} {x : Char}
    (ok : Schema.isIdentifier name = true) (other : isWordChar x = false) : x ∉ name.toList := by
  obtain ⟨c, cs, shape, start, all⟩ := isWordChar_of_isIdentifier ok
  simp only [isWordStart, Bool.and_eq_true] at start
  rw [shape]
  intro mem
  rcases List.mem_cons.mp mem with rfl | later
  · simp [other] at start
  · exact Bool.noConfusion (other.symm.trans (all x later))

theorem ScansAs.identifier {name : String} (ok : Schema.isIdentifier name = true) :
    ScansAs name.toList [.word name] := by
  obtain ⟨c, cs, shape, start, all⟩ := isWordChar_of_isIdentifier ok
  have spelled : name = String.ofList (c :: cs) := by rw [← shape, String.ofList_toList]
  rw [shape, spelled]
  exact word start all

theorem ScansAs.namedPlaceholder {name : String} (ok : Schema.isIdentifier name = true) :
    ScansAs ('@' :: name.toList) [.placeholder (.named name) 0] := by
  obtain ⟨c, cs, shape, start, all⟩ := isWordChar_of_isIdentifier ok
  have word : ∀ d ∈ name.toList, isWordChar d = true := by
    simp only [isWordStart, Bool.and_eq_true] at start
    rw [shape]
    exact List.forall_mem_cons.mpr ⟨start.1.1, all⟩
  refine ofFirst (by decide) fun rest ends => ?_
  have some : (name.toList).isEmpty = false := by simp [shape]
  simp only [firstToken, takeWhile_parts word ends, dropWhile_parts word ends, some,
    String.ofList_toList, Bool.false_eq_true, if_false]

theorem escapeQuotes_quote (cs : List Char) :
    Filter.escapeQuotes ('\'' :: cs) = '\'' :: '\'' :: Filter.escapeQuotes cs := rfl

theorem escapeQuotes_other {c : Char} (other : c ≠ '\'') (cs : List Char) :
    Filter.escapeQuotes (c :: cs) = c :: Filter.escapeQuotes cs := by
  simp [Filter.escapeQuotes, other]

/-- Quoted text reads back, if no further quote follows. -/
theorem readQuoted_escapeQuotes (cs rest : List Char) (ends : ∀ c ∈ rest.head?, c ≠ '\'') :
    readQuoted (Filter.escapeQuotes cs ++ '\'' :: rest) = some (cs, rest) := by
  induction cs with
  | nil =>
    cases rest with
    | nil => rfl
    | cons c rest =>
      have other := ends c rfl
      simp only [Filter.escapeQuotes, List.flatMap_nil, List.nil_append]
      exact readQuoted.eq_3 (c :: rest) fun _ h => other (by simp_all)
  | cons c cs ih =>
    by_cases quote : c = '\''
    · subst quote
      rw [escapeQuotes_quote, List.cons_append, List.cons_append, readQuoted, ih]
      rfl
    · rw [escapeQuotes_other quote, List.cons_append,
        readQuoted.eq_4 _ _ (by simp [quote]) (by simp [quote]), ih]
      rfl

theorem ScansAs.quote (s : String) : ScansAs (Filter.quote s).toList [.text s] := by
  rw [Filter.quote, String.toList_ofList]
  refine ofFirst (by decide) fun rest ends => ?_
  have read := readQuoted_escapeQuotes s.toList rest fun c hc => (ends c hc).2.1
  have shape : (Filter.escapeQuotes s.toList).append ['\''] ++ rest
      = Filter.escapeQuotes s.toList ++ '\'' :: rest := List.append_assoc ..
  rw [shape]
  simp only [firstToken, read, String.ofList_toList]

def numbered (seen : List Marker) : List Token → List Token
  | [] => []
  | .placeholder m _ :: ts => .placeholder m (placeOf seen m) :: numbered (addMarker seen m) ts
  | t :: ts => t :: numbered seen ts

def markersAfter (seen : List Marker) : List Token → List Marker
  | [] => seen
  | .placeholder m _ :: ts => markersAfter (addMarker seen m) ts
  | _ :: ts => markersAfter seen ts

theorem token_numberFrom (seen : List Marker) (ls : List Lexeme) :
    (numberFrom seen ls).map Lexeme.token = numbered seen (ls.map Lexeme.token) := by
  induction ls generalizing seen with
  | nil => rfl
  | cons l ls ih =>
    cases h : l.token <;> simp [numberFrom, numbered, h, ih]

theorem numbered_append (seen : List Marker) (ts us : List Token) :
    numbered seen (ts ++ us) = numbered seen ts ++ numbered (markersAfter seen ts) us := by
  induction ts generalizing seen with
  | nil => rfl
  | cons t ts ih => cases t <;> simp [numbered, markersAfter, ih]

theorem markersAfter_append (seen : List Marker) (ts us : List Token) :
    markersAfter seen (ts ++ us) = markersAfter (markersAfter seen ts) us := by
  induction ts generalizing seen with
  | nil => rfl
  | cons t ts ih => cases t <;> simp [markersAfter, ih]

theorem effective_of_no_zero {sql : String} (clean : '\x00' ∉ sql.toList) :
    effective sql = sql.toList := by
  have all : ∀ c ∈ sql.toList, (c != '\x00') = true := by
    intro c hc
    have other : c ≠ '\x00' := fun h => clean (h ▸ hc)
    simp [other]
  have whole := @List.takeWhile_append_of_pos Char (· != '\x00') sql.toList [] all
  simpa [effective] using whole

/-- The tokens of a text that is read to its end, where a zero character is one like any
other. -/
def lexemes (text : String) : List Lexeme := numberFrom [] (lexemesFrom 0 text.toList)

theorem scan_eq_lexemes {text : String} (clean : '\x00' ∉ text.toList) :
    scan text = lexemes text := by
  rw [scan, effective_of_no_zero clean]
  rfl

theorem token_lexemes {text : String} {ts : List Token} (h : ScansAs text.toList ts) :
    (lexemes text).map Lexeme.token = numbered [] ts := by
  obtain ⟨ls, last, hl, read⟩ := h 0 [] parts_nil
  simp only [List.append_nil, lexemesFrom_nil] at read
  rw [lexemes, token_numberFrom, read, hl]

end RecordStore.Sql
