import RecordStore.Proofs.Entry.Rows
import RecordStore.Proofs.Predicate.Alike
import RecordStore.Proofs.Predicate.Readable
import RecordStore.Proofs.Sql.ChangeText
import RecordStore.Proofs.Store.Failing

/-!
Placeholders and parameters. Numbered from the left, the placeholders of a statement stand for
its parameters in their order: the values of the columns, under the names of the columns, and
then the literals of the filter, each beside the column it is compared with.
-/
namespace RecordStore

open Sql

namespace Sql

/-! ## Numbers of placeholders -/

def markersOf : List Token → List Marker
  | [] => []
  | .placeholder m _ :: ts => m :: markersOf ts
  | _ :: ts => markersOf ts

def placesOf : List Token → List Nat
  | [] => []
  | .placeholder _ place :: ts => place :: placesOf ts
  | _ :: ts => placesOf ts

theorem filterMap_marker (ls : List Lexeme) :
    ls.filterMap Lexeme.marker? = markersOf (ls.map Lexeme.token) := by
  induction ls with
  | nil => rfl
  | cons l ls ih => cases h : l.token <;> simp [Lexeme.marker?, h, markersOf, ih]

theorem filterMap_place (ls : List Lexeme) :
    ls.filterMap Lexeme.place? = placesOf (ls.map Lexeme.token) := by
  induction ls with
  | nil => rfl
  | cons l ls ih => cases h : l.token <;> simp [Lexeme.place?, h, placesOf, ih]

@[simp] theorem markersOf_append (ts us : List Token) :
    markersOf (ts ++ us) = markersOf ts ++ markersOf us := by
  induction ts with
  | nil => rfl
  | cons t ts ih => cases t <;> simp [markersOf, ih]

@[simp] theorem markersOf_numbered (seen : List Marker) (ts : List Token) :
    markersOf (numbered seen ts) = markersOf ts := by
  induction ts generalizing seen with
  | nil => rfl
  | cons t ts ih => cases t <;> simp [markersOf, numbered, ih]

/-- No placeholder repeats a name. -/
def Fresh (seen : List Marker) (ts : List Token) : Prop :=
  (markersAfter seen ts).length = seen.length + (markersOf ts).length

theorem length_markersAfter_le (seen : List Marker) (ts : List Token) :
    (markersAfter seen ts).length ≤ seen.length + (markersOf ts).length := by
  induction ts generalizing seen with
  | nil => exact Nat.le_refl _
  | cons t ts ih =>
    cases t with
    | placeholder m place =>
      have most := length_addMarker_le seen m
      have rest := ih (addMarker seen m)
      simp only [markersAfter, markersOf, List.length_cons]
      omega
    | word | number | text | compare | star | comma | semicolon | openParen | closeParen | other
    | unterminated => exact ih seen

/-- Placeholders that repeat no name have consecutive numbers. -/
theorem Fresh.placesOf {seen : List Marker} {ts : List Token} (fresh : Fresh seen ts) :
    placesOf (numbered seen ts) = List.range' seen.length (markersOf ts).length := by
  induction ts generalizing seen with
  | nil => rfl
  | cons t ts ih =>
    cases t with
    | placeholder m place =>
      have most := length_addMarker_le seen m
      have rest := length_markersAfter_le (addMarker seen m) ts
      simp only [Fresh, markersAfter, markersOf, List.length_cons] at fresh
      have grown : (addMarker seen m).length = seen.length + 1 := by omega
      have first : placeOf seen m = seen.length := placeOf_of_lt_addMarker (by omega)
      have later : Fresh (addMarker seen m) ts := by
        unfold Fresh
        omega
      simp only [numbered, Sql.placesOf, markersOf, List.length_cons, List.range'_succ, first,
        ih later, grown]
    | word | number | text | compare | star | comma | semicolon | openParen | closeParen | other
    | unterminated => exact ih fresh

/-! ## Placeholders in tests -/

/-- What a text compares with a placeholder or assigns from one: the name, the operator and the
number of the placeholder. -/
def testsOf : List Token → List ((String × CompareOp) × Nat)
  | .word name :: .compare op :: .placeholder _ place :: ts => ((name, op), place) :: testsOf ts
  | _ :: ts => testsOf ts
  | [] => []

/-- Tokens that do not go on with a test begun before them. -/
def BeginsApart : List Token → Prop
  | .compare _ :: _ | .placeholder _ _ :: _ => False
  | _ => True

theorem testsOf_append {ts us : List Token} (apart : BeginsApart us) :
    testsOf (ts ++ us) = testsOf ts ++ testsOf us := by
  fun_induction testsOf ts with
  | case1 name op m place ts ih => simp [testsOf, ih]
  | case2 t ts other ih =>
    refine Eq.trans ?_ ih
    rw [List.cons_append]
    apply testsOf.eq_2
    intro name op m place rest word continues
    match ts with
    | [] =>
      simp only [List.nil_append] at continues
      rw [continues] at apart
      exact apart
    | [c] =>
      simp only [List.cons_append, List.nil_append, List.cons.injEq] at continues
      rw [continues.2] at apart
      exact apart
    | c :: p :: ts =>
      simp only [List.cons_append, List.cons.injEq] at continues
      obtain ⟨rfl, rfl, _⟩ := continues
      exact other name op m place ts word rfl
  | case3 => rfl

theorem BeginsApart.numbered {ts : List Token} (apart : BeginsApart ts) (seen : List Marker) :
    BeginsApart (numbered seen ts) := by
  cases ts with
  | nil => trivial
  | cons t ts =>
    cases t with
    | compare | placeholder => exact apart
    | word | number | text | star | comma | semicolon | openParen | closeParen | other
    | unterminated => trivial

theorem testsOf_eq_nil {ts : List Token} (none : markersOf ts = []) : testsOf ts = [] := by
  fun_induction testsOf ts with
  | case1 name op m place ts ih => cases none
  | case2 t ts other ih =>
    apply ih
    cases t with
    | placeholder m place => cases none
    | word | number | text | compare | star | comma | semicolon | openParen | closeParen | other
    | unterminated => exact none
  | case3 => rfl

/-- The placeholders of a piece of a text: each is a new one and stands in a test. -/
structure Places (seen : List Marker) (ts : List Token) (ms : List Marker)
    (bs : List (String × CompareOp)) : Prop where
  fresh : Fresh seen ts
  markers : markersOf ts = ms
  tests : testsOf (numbered seen ts) = bs.zipIdx seen.length
  level : bs.length = ms.length

namespace Places

variable {seen ms ns : List Marker} {ts us : List Token} {bs cs : List (String × CompareOp)}

theorem length_markersAfter (places : Places seen ts ms bs) :
    (markersAfter seen ts).length = seen.length + bs.length := by
  rw [places.level, ← places.markers]
  exact places.fresh

theorem append (first : Places seen ts ms bs) (second : Places (markersAfter seen ts) us ns cs)
    (apart : BeginsApart us) : Places seen (ts ++ us) (ms ++ ns) (bs ++ cs) where
  fresh := by
    have before := first.fresh
    have behind := second.fresh
    simp only [Fresh, markersAfter_append, markersOf_append, List.length_append] at before behind ⊢
    omega
  markers := by rw [markersOf_append, first.markers, second.markers]
  tests := by
    rw [numbered_append, testsOf_append (apart.numbered _), first.tests, second.tests,
      first.length_markersAfter, List.zipIdx_append]
  level := by simp only [List.length_append, first.level, second.level]

theorem silent (none : markersOf ts = []) (seen : List Marker) : Places seen ts [] [] where
  fresh := by
    have most := length_markersAfter_le seen ts
    have least := length_le_markersAfter seen ts
    rw [none] at most
    simp only [Fresh, none, List.length_nil, Nat.add_zero] at most ⊢
    omega
  markers := none
  tests := testsOf_eq_nil (by rw [markersOf_numbered, none])
  level := rfl

theorem word (places : Places seen ts ms bs) (apart : BeginsApart ts) (name : String) :
    Places seen (.word name :: ts) ms bs := by
  have alone : Places seen [.word name] [] [] := silent rfl seen
  exact alone.append places apart

theorem parenthesized (places : Places seen ts ms bs) :
    Places seen (.openParen :: (ts ++ [.closeParen])) ms bs := by
  have closed := places.append (silent (rfl : markersOf [.closeParen] = []) _) trivial
  rw [List.append_nil, List.append_nil] at closed
  exact ⟨closed.fresh, closed.markers, closed.tests, closed.level⟩

end Places

end Sql

/-! ## Filters -/

/-- The comparisons whose literals are parameters. NULL is none in either mode. -/
def Predicate.carried (mode : FilterMode) (p : Predicate) : List Comparison :=
  match mode with
  | .bound => p.comparisons.filter fun k => !k.value.isNull
  | .inline => []

/-- What a comparison asks for, with the column in its declared spelling. -/
def Comparison.test (columns : List Column) (k : Comparison) : String × CompareOp :=
  (((Schema.column? columns k.column).map Column.name).getD "", k.op)

theorem Predicate.carried_append {l r q : Predicate}
    (comparisons : q.comparisons = l.comparisons ++ r.comparisons) (mode : FilterMode) :
    q.carried mode = l.carried mode ++ r.carried mode := by
  cases mode with
  | bound => simp [carried, comparisons]
  | inline => rfl

namespace Filter

variable {columns : List Column} {mode : FilterMode} {p : Predicate} {f : Filter}

theorem parameters_ofPredicate (compiled : ofPredicate columns mode p = .ok f) :
    f.parameters = (p.carried mode).map fun k => k.value.toValue := by
  induction p generalizing f with
  | compare k =>
    obtain ⟨column, _, _, shape⟩ := ofComparison_ok compiled
    rcases shape with ⟨value, _, rfl⟩ | ⟨value, _, rfl⟩ | ⟨value, _, rfl⟩
    · cases mode <;> simp [Predicate.carried, Predicate.comparisons, value, Literal.isNull]
    · cases mode <;> simp [Predicate.carried, Predicate.comparisons, value, Literal.isNull]
    · have solid : k.value.isNull = false := by
        rw [← Bool.not_eq_true, Literal.isNull_iff]
        exact value
      cases mode <;> simp [Predicate.carried, Predicate.comparisons, solid, joined, operand]
  | and l r left right =>
    obtain ⟨g, hg, compiled⟩ := bind_eq_ok compiled
    obtain ⟨i, hi, compiled⟩ := bind_eq_ok compiled
    cases Except.ok.inj compiled
    have both : (Predicate.and l r).carried mode = l.carried mode ++ r.carried mode :=
      Predicate.carried_append rfl mode
    simp only [joined, underAnd_parameters, left hg, right hi, both, List.map_append]
  | or l r left right =>
    obtain ⟨g, hg, compiled⟩ := bind_eq_ok compiled
    obtain ⟨i, hi, compiled⟩ := bind_eq_ok compiled
    cases Except.ok.inj compiled
    have both : (Predicate.or l r).carried mode = l.carried mode ++ r.carried mode :=
      Predicate.carried_append rfl mode
    simp only [joined, left hg, right hi, both, List.map_append]

theorem beginsApart_tokens_append (columns : List Column) (mode : FilterMode) (p : Predicate)
    (us : List Token) : BeginsApart (tokens columns mode p ++ us) := by
  induction p generalizing us with
  | compare k =>
    simp only [tokens, comparisonTokens]
    split
    · split <;> trivial
    · trivial
  | and l r left _ =>
    simp only [tokens, tokensUnderAnd, List.append_assoc]
    split
    · trivial
    · exact left _
  | or l r left _ =>
    simp only [tokens, List.append_assoc]
    exact left _

theorem beginsApart_tokens (columns : List Column) (mode : FilterMode) (p : Predicate) :
    BeginsApart (tokens columns mode p) := by
  simpa using beginsApart_tokens_append columns mode p []

theorem beginsApart_underAnd (columns : List Column) (mode : FilterMode) (p : Predicate) :
    BeginsApart (tokensUnderAnd p (tokens columns mode p)) := by
  unfold tokensUnderAnd
  split
  · trivial
  · exact beginsApart_tokens columns mode p

theorem places_underAnd {seen ms : List Marker} {ts : List Token}
    {bs : List (String × CompareOp)} (places : Places seen ts ms bs) (p : Predicate) :
    Places seen (tokensUnderAnd p ts) ms bs := by
  unfold tokensUnderAnd
  split
  · exact places.parenthesized
  · exact places

theorem places_comparison (columns : List Column) (mode : FilterMode) (k : Comparison)
    (seen : List Marker) :
    Places seen (tokens columns mode (.compare k))
      (List.replicate ((Predicate.compare k).carried mode).length .anonymous)
      (((Predicate.compare k).carried mode).map (Comparison.test columns)) := by
  cases null : k.value.isNull with
  | true =>
    have none : (Predicate.compare k).carried mode = [] := by
      cases mode <;> simp [Predicate.carried, Predicate.comparisons, null]
    rw [none]
    apply Places.silent
    simp only [tokens, comparisonTokens, null, if_true]
    split <;> rfl
  | false =>
    cases mode with
    | inline =>
      apply Places.silent
      simp only [tokens, comparisonTokens, null, Bool.false_eq_true, if_false]
      rfl
    | bound =>
      have one : (Predicate.compare k).carried .bound = [k] := by
        simp [Predicate.carried, Predicate.comparisons, null]
      simp only [tokens, comparisonTokens, null, Bool.false_eq_true, if_false, one]
      constructor
      case fresh => simp [Fresh, operandToken, markersAfter, addMarker, markersOf]
      case markers => rfl
      case tests => rfl
      case level => rfl

/-- Each placeholder of a filter is anonymous and stands beside the column that its literal is
compared with. -/
theorem places_tokens (columns : List Column) (mode : FilterMode) (p : Predicate)
    (seen : List Marker) :
    Places seen (tokens columns mode p) (List.replicate (p.carried mode).length .anonymous)
      ((p.carried mode).map (Comparison.test columns)) := by
  induction p generalizing seen with
  | compare k => exact places_comparison columns mode k seen
  | and l r left right =>
    have both : (Predicate.and l r).carried mode = l.carried mode ++ r.carried mode :=
      Predicate.carried_append rfl mode
    rw [both, List.length_append, List.replicate_add, List.map_append]
    apply (places_underAnd (left seen) l).append
    · apply (places_underAnd (right _) r).word
      exact beginsApart_underAnd columns mode r
    · trivial
  | or l r left right =>
    have both : (Predicate.or l r).carried mode = l.carried mode ++ r.carried mode :=
      Predicate.carried_append rfl mode
    rw [both, List.length_append, List.replicate_add, List.map_append]
    apply (left seen).append
    · apply (right _).word
      exact beginsApart_tokens columns mode r
    · trivial

end Filter

/-! ## Columns -/

namespace Sql

variable {seen : List Marker} {name : String} {rest : List String}

theorem places_assignments (distinct : (name :: rest).Nodup)
    (unseen : ∀ n ∈ name :: rest, .named n ∉ seen) :
    Places seen (assignmentTokens (name :: rest)) ((name :: rest).map .named)
      ((name :: rest).map (·, .eq)) := by
  induction rest generalizing name seen with
  | nil =>
    obtain ⟨place, grown⟩ := placeOf_of_not_mem (unseen name (List.mem_singleton_self name))
    constructor
    case fresh => simp [Fresh, assignmentTokens, markersAfter, grown, markersOf]
    case markers => rfl
    case tests => simp [assignmentTokens, numbered, place, testsOf]
    case level => rfl
  | cons other rest ih =>
    obtain ⟨place, grown⟩ := placeOf_of_not_mem (unseen name (List.mem_cons_self ..))
    have first : Places seen [.word name, .compare .eq, .placeholder (.named name) 0, .comma]
        [.named name] [(name, .eq)] := by
      constructor
      case fresh => simp [Fresh, markersAfter, grown, markersOf]
      case markers => rfl
      case tests => simp [numbered, place, testsOf]
      case level => rfl
    have later := ih distinct.of_cons (unseen_append distinct unseen)
    rw [← grown] at later
    apply first.append later
    cases rest <;> trivial

theorem intercalate_singleton {α : Type} (token : α → Token) (xs : List α) :
    [Token.comma].intercalate (xs.map fun x => [token x]) = (xs.map token).intersperse .comma := by
  rw [List.intercalate]
  induction xs with
  | nil => rfl
  | cons n rest ih => cases rest <;> simp_all

theorem ScansAs.names (plain : ∀ n ∈ name :: rest, Schema.isIdentifier n = true) :
    ScansAs (Statement.commaSeparated (name :: rest)).toList
      (((name :: rest).map Token.word).intersperse .comma) := by
  have each : ∀ n ∈ name :: rest, ScansAs (id n).toList [.word n] := fun n mem =>
    identifier (plain n mem)
  have scans := listed each
  rwa [List.map_id, intercalate_singleton] at scans

theorem ScansAs.namedPlaceholders (plain : ∀ n ∈ name :: rest, Schema.isIdentifier n = true) :
    ScansAs (Statement.commaSeparated ((name :: rest).map ("@" ++ ·))).toList
      (((name :: rest).map fun n => Token.placeholder (.named n) 0).intersperse .comma) := by
  rw [← intercalate_singleton]
  refine listed fun n mem => ?_
  have spelled : ("@" ++ n).toList = '@' :: n.toList := by simp
  rw [spelled]
  exact namedPlaceholder (plain n mem)

/-- The tokens of an INSERT that takes the values of columns from placeholders. -/
def insertTokens (d : Descriptor) (placeholders : List Token) : List Token :=
  [.word "INSERT", .word "INTO", .word d.table, .openParen]
    ++ (d.columnNames.map Token.word).intersperse .comma
    ++ [.closeParen, .word "VALUES", .openParen]
    ++ placeholders.intersperse .comma
    ++ [.closeParen]

theorem markersOf_intersperse (ts : List Token) :
    markersOf (ts.intersperse .comma) = markersOf ts := by
  induction ts with
  | nil => rfl
  | cons t ts ih => cases ts <;> cases t <;> simp_all [markersOf]

theorem markersOf_words (names : List String) : markersOf (names.map Token.word) = [] := by
  induction names with
  | nil => rfl
  | cons n rest ih => exact ih

theorem markersOf_placeholders (names : List String) :
    markersOf (names.map fun n => Token.placeholder (.named n) 0) = names.map .named := by
  induction names with
  | nil => rfl
  | cons n rest ih => exact congrArg _ ih

theorem numbered_of_silent {ts : List Token} (silent : markersOf ts = []) (seen : List Marker) :
    numbered seen ts = ts ∧ markersAfter seen ts = seen := by
  induction ts with
  | nil => exact ⟨rfl, rfl⟩
  | cons t ts ih =>
    cases t with
    | placeholder m place => cases silent
    | word | number | text | compare | star | comma | semicolon | openParen | closeParen | other
    | unterminated => exact ⟨congrArg _ (ih silent).1, (ih silent).2⟩

theorem numbered_placeholders (distinct : (name :: rest).Nodup)
    (unseen : ∀ n ∈ name :: rest, .named n ∉ seen) :
    numbered seen (((name :: rest).map fun n => Token.placeholder (.named n) 0).intersperse .comma)
      = (((name :: rest).zipIdx seen.length).map fun (n, i) =>
          Token.placeholder (.named n) i).intersperse .comma ∧
    markersAfter seen
        (((name :: rest).map fun n => Token.placeholder (.named n) 0).intersperse .comma)
      = seen ++ (name :: rest).map .named := by
  have listed := numbered_listed (fun _ => []) (fun n seen ts => ⟨rfl, rfl⟩) distinct unseen
  simpa only [List.nil_append, intercalate_singleton] using listed

end Sql

/-! ## Statements -/

/-- The placeholders of a text, numbered from the left, stand for the parameters of its
statement in their order: the values under the names, then the literals. -/
structure Statement.LinesUp (s : Statement) (ls : List Lexeme) (names : List String)
    (values literals : List Value) : Prop where
  parameters : s.parameters = values ++ literals
  level : values.length = names.length
  markers : ls.filterMap Lexeme.marker?
    = names.map .named ++ List.replicate literals.length .anonymous
  places : ls.filterMap Lexeme.place? = List.range s.parameters.length
  counted : (parameterMarkers ls).length = s.parameters.length

section

variable {d : Descriptor} {decl : Declaration} {mode : FilterMode} {p : Predicate} {f : Filter}
  {head sql : String} {hs ts : List Token} {ls : List Lexeme} {names : List String}
  {values literals : List Value} {bs : List (String × CompareOp)}

theorem Sql.Fresh.linesUp {s : Statement} (fresh : Fresh [] ts)
    (markers : markersOf ts = names.map .named ++ List.replicate literals.length .anonymous)
    (spelled : ls.map Lexeme.token = numbered [] ts)
    (parameters : s.parameters = values ++ literals) (level : values.length = names.length) :
    s.LinesUp ls names values literals := by
  have size : (markersOf ts).length = s.parameters.length := by
    simp [markers, parameters, level]
  constructor
  case parameters => exact parameters
  case level => exact level
  case markers => rw [filterMap_marker, spelled, markersOf_numbered, markers]
  case places =>
    rw [filterMap_place, spelled, fresh.placesOf, size, List.range_eq_range']
    rfl
  case counted =>
    rw [parameterMarkers_of_tokens spelled, fresh, size]
    exact Nat.zero_add _

/-- A text is read to its end or, as the store reads it, to its first zero character. -/
def Sql.IsReading (text : String) (ls : List Lexeme) : Prop := ls = scan text ∨ ls = lexemes text

theorem Sql.IsOpening.tokens (opening : IsOpening head hs) (reading : IsReading head ls) :
    ls.map Lexeme.token = numbered [] hs := by
  have whole := token_lexemes opening.scans
  rcases reading with rfl | rfl
  · rw [scan_eq_lexemes opening.clean, whole]
  · exact whole

/-- Behind WHERE stand the placeholders of the filter, even if its text is cut in a literal. -/
theorem Sql.IsOpening.tokens_filtered (opening : IsOpening head hs)
    (plain : ∀ c ∈ d.columns, Schema.isIdentifier c.name = true)
    (compiled : Filter.ofPredicate d.columns mode p = .ok f)
    (reading : IsReading (head ++ " WHERE " ++ f.text) ls) (seen : List Marker) :
    ∃ ts, ls.map Lexeme.token = numbered [] (hs ++ ts) ∧ BeginsApart ts ∧
      Places seen ts (List.replicate (p.carried mode).length .anonymous)
        ((p.carried mode).map (Comparison.test d.columns)) := by
  have scans := ScansAs.ofPredicate plain compiled
  have whole := token_lexemes (opening.filtered scans)
  have places := (Filter.places_tokens d.columns mode p seen).word
    (Filter.beginsApart_tokens d.columns mode p) "WHERE"
  by_cases readable : Filter.IsReadable mode p
  · have clean := opening.clean_where.append (Filter.clean_ofPredicate plain readable compiled)
    refine ⟨.word "WHERE" :: Filter.tokens d.columns mode p, ?_, trivial, places⟩
    rcases reading with rfl | rfl
    · rw [scan_eq_lexemes clean, whole]
    · exact whole
  · rcases reading with rfl | rfl
    · obtain rfl : mode = .inline := by
        by_contra bound
        exact readable fun inline => absurd inline bound
      obtain ⟨ts, front, spelled⟩ :=
        (Filter.endsQuoted_ofPredicate plain compiled readable).token_scan opening
      obtain ⟨q, vs, _, split⟩ := front _ scans
      have silent : markersOf (ts ++ q :: vs) = [] := by
        rw [← split]
        exact (Filter.places_tokens d.columns .inline p seen).markers
      rw [markersOf_append] at silent
      refine ⟨_, spelled, trivial, Places.silent ?_ seen⟩
      simp [markersOf, (List.append_eq_nil_iff.mp silent).1]
    · exact ⟨_, whole, trivial, places⟩

/-- The comparisons of an optional predicate whose literals are parameters. -/
def carriedBy (mode : FilterMode) (p : Option Predicate) : List Comparison :=
  p.toList.flatMap (Predicate.carried mode)

theorem Filter.parameters_compile {p : Option Predicate}
    (compiled : Filter.compile p d mode = .ok f) :
    f.parameters = (carriedBy mode p).map fun k => k.value.toValue := by
  cases p with
  | none =>
    cases Except.ok.inj compiled
    rfl
  | some p =>
    have parameters := parameters_ofPredicate compiled
    simpa [carriedBy] using parameters

/-- Behind a head that takes its values by name come the placeholders of the filter. -/
theorem Statement.linesUp_filtered (opening : IsOpening head hs)
    (places : Places [] hs (names.map .named) bs) (level : values.length = names.length)
    (plain : ∀ c ∈ d.columns, Schema.isIdentifier c.name = true) {p : Option Predicate}
    (compiled : Filter.compile p d mode = .ok f)
    (reading : IsReading (filtered head values f).sql ls) :
    (filtered head values f).LinesUp ls names values f.parameters ∧
      testsOf (ls.map Lexeme.token)
        = (bs ++ (carriedBy mode p).map (Comparison.test d.columns)).zipIdx := by
  have counted := congrArg List.length (Filter.parameters_compile compiled)
  rw [List.length_map] at counted
  cases p with
  | none =>
    cases Except.ok.inj compiled
    have spelled := opening.tokens reading
    constructor
    · exact places.fresh.linesUp (by simp [places.markers, Filter.empty]) spelled
        (List.append_nil values).symm level
    · simp only [spelled, places.tests, carriedBy, Option.toList_none, List.flatMap_nil,
        List.map_nil, List.append_nil, List.length_nil]
  | some p =>
    have whole := filtered_eq plain compiled head values
    rw [whole] at reading ⊢
    obtain ⟨ts, spelled, apart, behind⟩ :=
      opening.tokens_filtered plain compiled reading (markersAfter [] hs)
    have all := places.append behind apart
    have same : carriedBy mode (some p) = p.carried mode := by simp [carriedBy]
    rw [same] at counted ⊢
    constructor
    · exact all.fresh.linesUp (by rw [all.markers, counted]) spelled rfl level
    · rw [spelled]
      exact all.tests

/-- An INSERT of all columns. -/
def Statement.insertAll (d : Descriptor) : String :=
  let columns := commaSeparated d.columnNames
  let placeholders := commaSeparated (d.columnNames.map ("@" ++ ·))
  s!"INSERT INTO {d.table} ({columns}) VALUES ({placeholders})"

theorem Statement.insert_ok {values : List Value} {s : Statement}
    (built : insert d values = .ok s) :
    s = ⟨insertAll d, values⟩ ∧ values.length = d.columnNames.length := by
  obtain ⟨_, counted, built⟩ := bind_eq_ok built
  cases Except.ok.inj built
  exact ⟨rfl, (length_of_checkArity counted).trans (List.length_map _).symm⟩

theorem Sql.isOpening_insert (accepted : d.IsOf decl) :
    IsOpening (Statement.insertAll d)
      (insertTokens d (d.columnNames.map fun n => .placeholder (.named n) 0)) := by
  obtain ⟨name, rest, shape, _, plain⟩ := accepted.names
  constructor
  case clean =>
    have names : ∀ n ∈ d.columnNames, Clean n := by
      rw [shape]
      exact fun n mem => clean_of_isIdentifier (plain n mem)
    have placeholders : ∀ s ∈ d.columnNames.map ("@" ++ ·), Clean s := by
      intro s mem
      obtain ⟨n, hn, rfl⟩ := List.mem_map.mp mem
      have sign : Clean "@" := by unfold Clean; decide
      exact sign.append (names n hn)
    have insert : Clean "INSERT INTO " := by unfold Clean; decide
    have opens : Clean " (" := by unfold Clean; decide
    have between : Clean ") VALUES (" := by unfold Clean; decide
    have closes : Clean ")" := by unfold Clean; decide
    exact (((((insert.append (clean_of_isIdentifier accepted.table)).append opens).append
      (clean_commaSeparated names)).append between).append
      (clean_commaSeparated placeholders)).append closes
  case scans =>
    have spelled : (Statement.insertAll d).toList = "INSERT".toList ++ ' ' :: ("INTO".toList ++
        ' ' :: (d.table.toList ++ ' ' ::
          ('(' :: ((Statement.commaSeparated d.columnNames).toList ++ [')']) ++
            ' ' :: ("VALUES".toList ++ ' ' :: '(' ::
              ((Statement.commaSeparated (d.columnNames.map ("@" ++ ·))).toList ++ [')']))))) := by
      have text : Statement.insertAll d = "INSERT INTO " ++ d.table ++ " (" ++
        Statement.commaSeparated d.columnNames ++ ") VALUES (" ++
          Statement.commaSeparated (d.columnNames.map ("@" ++ ·)) ++ ")" := rfl
      simp [text]
    have word {w : String} (ok : Schema.isIdentifier w = true) := ScansAs.identifier ok
    have names := (ScansAs.names plain).parenthesized
    have placeholders := (ScansAs.namedPlaceholders plain).parenthesized
    rw [← shape] at names placeholders
    have scans := (word (by decide : Schema.isIdentifier "INSERT" = true)).spaced
      ((word (by decide : Schema.isIdentifier "INTO" = true)).spaced
        ((word accepted.table).spaced (names.keyword
          (by decide : Schema.isIdentifier "VALUES" = true) placeholders)))
    rw [spelled]
    simpa [insertTokens] using scans

theorem Sql.numbered_insertTokens (accepted : d.IsOf decl) :
    let tokens := insertTokens d (d.columnNames.map fun n => .placeholder (.named n) 0)
    numbered [] tokens = insertTokens d (d.columnNames.zipIdx.map fun (n, i) =>
        .placeholder (.named n) i) ∧
      Fresh [] tokens ∧ markersOf tokens = d.columnNames.map .named := by
  obtain ⟨name, rest, shape, distinct, _⟩ := accepted.names
  have unseen : ∀ n ∈ name :: rest, Marker.named n ∉ ([] : List Marker) := fun _ _ =>
    List.not_mem_nil
  obtain ⟨tokens, markers⟩ := numbered_placeholders distinct unseen
  rw [← shape] at tokens markers
  let front := [.word "INSERT", .word "INTO", .word d.table, .openParen]
    ++ (d.columnNames.map Token.word).intersperse .comma
    ++ [.closeParen, .word "VALUES", .openParen]
  have silent : markersOf front = [] := by
    simp [front, markersOf, markersOf_intersperse, markersOf_words]
  obtain ⟨same, none⟩ := numbered_of_silent silent []
  have whole (ps : List Token) :
      insertTokens d ps = front ++ (ps.intersperse .comma ++ [.closeParen]) := by
    simp [insertTokens, front]
  simp only [whole]
  refine ⟨?_, ?_, ?_⟩
  · rw [numbered_append, same, none, numbered_append, tokens]
    rfl
  · simp [Fresh, markersAfter_append, none, markers, markersAfter, silent, markersOf_intersperse,
      markersOf_placeholders, markersOf]
  · simp [silent, markersOf_intersperse, markersOf_placeholders, markersOf]

end

/-! ## What the store makes of them -/

theorem Store.coded_prepare (s : Store) (id : Nat) (c : Connection) (sql : String) :
    FailsOnly (fun e => e.code?.isSome = true) (s.prepare id c sql).1 := by
  unfold prepare
  split
  · refine .error ?_
    unfold SyntaxError.toStoreError
    split <;> rfl
  · rename_i command _
    split
    · exact .ok _
    · split
      · exact .error rfl
      · dsimp only
        split
        · exact .error rfl
        · rename_i t _
          have names := general_checkNames sql t.layout command
          cases checked : command.checkNames sql t.layout with
          | ok => exact .ok _
          | error e => exact .error (by rw [names.of_error e checked]; rfl)

/-- With as many parameters as its text asks for, a statement fails in the engine if at all. -/
theorem Store.coded_run (s : Store) (id : Nat) {sql : String} {parameters : List Value}
    (counted : (parameterMarkers (scan sql)).length = parameters.length) :
    FailsOnly (fun e => e.code?.isSome = true) (s.run id sql parameters).1 := by
  have enough : ¬ parameters.length ≠ (parameterMarkers (scan sql)).length :=
    not_not.mpr counted.symm
  unfold run
  split
  · exact .error rfl
  · rename_i c _
    have prepared := s.coded_prepare id c sql
    dsimp only
    split
    · rename_i e failed
      exact .error (prepared.of_error e failed)
    · rename_i command _
      rw [if_neg enough]
      generalize Store.step _ _ _ _ _ = stepped
      obtain ⟨reply, s'⟩ := stepped
      cases reply with
      | error cause => exact .error rfl
      | ok reply => exact .ok reply

theorem Store.execute_ne_parameterCount {s : Statement}
    (counted : (parameterMarkers (scan s.sql)).length = s.parameters.length) (store : Store)
    (id given needed : Nat) :
    (store.execute id s.sql s.parameters).1 ≠ .error (.parameterCount given needed) := by
  have coded := store.coded_run id counted
  unfold execute
  generalize store.run id s.sql s.parameters = ran at coded
  obtain ⟨reply, after⟩ := ran
  intro refused
  cases reply with
  | error e =>
    cases refused
    cases coded.of_error _ rfl
  | ok reply =>
    cases reply with
    | done count => cases refused
    | rows columns rows => cases rows <;> cases refused

theorem Store.query_ne_parameterCount {s : Statement}
    (counted : (parameterMarkers (scan s.sql)).length = s.parameters.length) (store : Store)
    (id given needed : Nat) :
    (store.query id s.sql s.parameters).1 ≠ .error (.parameterCount given needed) := by
  have coded := store.coded_run id counted
  unfold query
  generalize store.run id s.sql s.parameters = ran at coded
  obtain ⟨reply, after⟩ := ran
  intro refused
  cases reply with
  | error e =>
    cases refused
    cases coded.of_error _ rfl
  | ok reply => cases reply <;> cases refused

/-! ## Statements of the repository -/

section

variable {d : Descriptor} {decl : Declaration} {mode : FilterMode} {f : Filter}
  {values : List Value} {p : Option Predicate} {s : Statement} {ls : List Lexeme}

inductive Statement.IsBuilt (d : Descriptor) (values : List Value) (f : Filter) : Statement → Prop
  | select : IsBuilt d values f (select d f)
  | delete : IsBuilt d values f (delete d f)
  | insert {s : Statement} : insert d values = .ok s → IsBuilt d values f s
  | update {s : Statement} : update d values f = .ok s → IsBuilt d values f s

theorem Statement.select_lines_up (accepted : d.IsOf decl)
    (compiled : Filter.compile p d mode = .ok f) (reading : IsReading (select d f).sql ls) :
    (select d f).LinesUp ls [] [] f.parameters ∧
      testsOf (ls.map Lexeme.token)
        = ((carriedBy mode p).map (Comparison.test d.columns)).zipIdx := by
  have places : Places [] [.word "SELECT", .star, .word "FROM", .word d.table]
    (([] : List String).map .named) [] := .silent rfl []
  exact linesUp_filtered (isOpening_select accepted.table) places rfl accepted.columns compiled
    reading

theorem Statement.delete_lines_up (accepted : d.IsOf decl)
    (compiled : Filter.compile p d mode = .ok f) (reading : IsReading (delete d f).sql ls) :
    (delete d f).LinesUp ls [] [] f.parameters ∧
      testsOf (ls.map Lexeme.token)
        = ((carriedBy mode p).map (Comparison.test d.columns)).zipIdx := by
  have places : Places [] [.word "DELETE", .word "FROM", .word d.table]
    (([] : List String).map .named) [] := .silent rfl []
  exact linesUp_filtered (isOpening_delete accepted.table) places rfl accepted.columns compiled
    reading

theorem Statement.update_lines_up (accepted : d.IsOf decl)
    (compiled : Filter.compile p d mode = .ok f) (built : update d values f = .ok s)
    (reading : IsReading s.sql ls) :
    s.LinesUp ls d.columnNames values f.parameters ∧
      testsOf (ls.map Lexeme.token) = (d.columnNames.map (·, CompareOp.eq)
        ++ (carriedBy mode p).map (Comparison.test d.columns)).zipIdx := by
  obtain ⟨_, counted, built⟩ := bind_eq_ok built
  cases Except.ok.inj built
  have level : values.length = d.columnNames.length :=
    (length_of_checkArity counted).trans (List.length_map _).symm
  obtain ⟨name, rest, shape, distinct, _⟩ := accepted.names
  have unseen : ∀ n ∈ name :: rest, Marker.named n ∉ ([] : List Marker) := fun _ _ =>
    List.not_mem_nil
  have assignments := places_assignments distinct unseen
  rw [← shape] at assignments
  have heads : Places [] [.word "UPDATE", .word d.table, .word "SET"] [] [] := .silent rfl []
  have places := heads.append assignments (by rw [shape]; cases rest <;> trivial)
  exact linesUp_filtered (isOpening_update accepted) places level accepted.columns compiled reading

theorem Statement.insert_lines_up (accepted : d.IsOf decl) (built : insert d values = .ok s)
    (reading : IsReading s.sql ls) :
    s.LinesUp ls d.columnNames values [] ∧
      ls.map Lexeme.token = insertTokens d (d.columnNames.zipIdx.map fun (n, i) =>
        .placeholder (.named n) i) := by
  obtain ⟨rfl, level⟩ := insert_ok built
  have spelled := (isOpening_insert accepted).tokens reading
  obtain ⟨tokens, fresh, markers⟩ := numbered_insertTokens accepted
  constructor
  · apply fresh.linesUp _ spelled (List.append_nil values).symm level
    simp [markers]
  · exact spelled.trans tokens

/-- Parameters line up with placeholders. A value is assigned or inserted to the column of its
place, and a literal stands beside the column and the operator of its comparison. -/
theorem Statement.parameters_line_up (accepted : decl.describe = .ok d)
    (compiled : Filter.compile p d mode = .ok f) (values : List Value) :
    f.parameters = (carriedBy mode p).map (fun k => k.value.toValue) ∧
    (∀ s ∈ [select d f, delete d f], ∀ ls, IsReading s.sql ls →
      s.LinesUp ls [] [] f.parameters ∧
        testsOf (ls.map Lexeme.token)
          = ((carriedBy mode p).map (Comparison.test d.columns)).zipIdx) ∧
    (∀ s, update d values f = .ok s → ∀ ls, IsReading s.sql ls →
      s.LinesUp ls d.columnNames values f.parameters ∧
        testsOf (ls.map Lexeme.token) = (d.columnNames.map (·, CompareOp.eq)
          ++ (carriedBy mode p).map (Comparison.test d.columns)).zipIdx) ∧
    (∀ s, insert d values = .ok s → ∀ ls, IsReading s.sql ls →
      s.LinesUp ls d.columnNames values [] ∧
        ls.map Lexeme.token = insertTokens d (d.columnNames.zipIdx.map fun (n, i) =>
          .placeholder (.named n) i)) ∧
    (∀ s, IsBuilt d values f s → ∀ (store : Store) id given needed,
      (store.execute id s.sql s.parameters).1 ≠ .error (.parameterCount given needed) ∧
        (store.query id s.sql s.parameters).1 ≠ .error (.parameterCount given needed)) := by
  have isOf := Declaration.describe_ok accepted
  have counted : ∀ s, IsBuilt d values f s →
      (parameterMarkers (scan s.sql)).length = s.parameters.length := by
    intro s built
    cases built with
    | select => exact (select_lines_up isOf compiled (.inl rfl)).1.counted
    | delete => exact (delete_lines_up isOf compiled (.inl rfl)).1.counted
    | insert built => exact (insert_lines_up isOf built (.inl rfl)).1.counted
    | update built => exact (update_lines_up isOf compiled built (.inl rfl)).1.counted
  refine ⟨Filter.parameters_compile compiled, ?_, ?_, ?_, ?_⟩
  · intro s mem ls reading
    simp only [List.mem_cons, List.not_mem_nil, or_false] at mem
    rcases mem with rfl | rfl
    · exact select_lines_up isOf compiled reading
    · exact delete_lines_up isOf compiled reading
  · intro s built ls reading
    exact update_lines_up isOf compiled built reading
  · intro s built ls reading
    exact insert_lines_up isOf built reading
  · intro s built store id given needed
    exact ⟨store.execute_ne_parameterCount (counted s built) id given needed,
      store.query_ne_parameterCount (counted s built) id given needed⟩

theorem Statement.parameters_line_up_entries :
    ∃ f s, Filter.compile (some (.and (.compareWith "id" .gt (.integer 5))
        (.compareWith "description" .ne .null))) Entry.descriptor .bound = .ok f ∧
      update Entry.descriptor [.integer 7, .null, .text "2024-01-01"] f = .ok s ∧
      s.LinesUp (scan s.sql) ["ID", "DESCRIPTION", "DATE"]
        [.integer 7, .null, .text "2024-01-01"] [.integer 5] ∧
      testsOf ((scan s.sql).map Lexeme.token) = [(("ID", .eq), 0), (("DESCRIPTION", .eq), 1),
        (("DATE", .eq), 2), (("ID", .gt), 3)] := by
  have compiled : Filter.compile (some (.and (.compareWith "id" .gt (.integer 5))
      (.compareWith "description" .ne .null))) Entry.descriptor .bound
      = .ok ⟨"ID > ? AND DESCRIPTION IS NOT NULL", [.integer 5]⟩ :=
    eq_ok_of_toOption (by decide)
  obtain ⟨_, _, updates, _⟩ := parameters_line_up Entry.describe_declaration compiled
    [.integer 7, .null, .text "2024-01-01"]
  obtain ⟨linesUp, tests⟩ := updates _ rfl _ (.inl rfl)
  exact ⟨_, _, compiled, rfl, linesUp, tests⟩

end

end RecordStore
