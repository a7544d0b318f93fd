import RecordStore.Proofs.Schema
import RecordStore.Proofs.Sql.SelectText

/-!
Changes under a filter. A DELETE reads as the command for its condition. An UPDATE assigns to
each column the parameter at the place of the column, and the parameters of the filter follow.
-/
namespace RecordStore

open Sql

namespace Sql

theorem isOpening_delete {table : String} (plain : Schema.isIdentifier table = true) :
    IsOpening ("DELETE FROM " ++ table) [.word "DELETE", .word "FROM", .word table] where
  clean := by
    have delete : Clean "DELETE FROM " := by unfold Clean; decide
    exact delete.append (clean_of_isIdentifier plain)
  scans := by
    have spelled : ("DELETE FROM " ++ table).toList
        = "DELETE".toList ++ ' ' :: ("FROM".toList ++ ' ' :: table.toList) := by simp
    rw [spelled]
    exact (ScansAs.identifier (by decide)).keyword (by decide)
      (ScansAs.identifier plain)

theorem isHead_delete {table : String} (plain : Schema.isIdentifier table = true)
    (free : isKeyword table = false) :
    IsHead ("DELETE FROM " ++ table) [.word "DELETE", .word "FROM", .word table]
      (· = .delete table) where
  clean := (isOpening_delete plain).clean
  scans := (isOpening_delete plain).scans
  reads := by
    intro ls after spelled _
    simp only [numbered, List.map_eq_cons_iff] at spelled
    obtain ⟨a, _, rfl, ha, b, _, rfl, hb, o, _, rfl, ho, last⟩ := spelled
    cases List.map_eq_nil_iff.mp last
    refine ⟨_, rfl, ?_⟩
    have delete := isKeyword_of_word ha
    have select : a.isKeyword "SELECT" = false := isKeyword_other delete (by decide)
    have insert : a.isKeyword "INSERT" = false := isKeyword_other delete (by decide)
    have update : a.isKeyword "UPDATE" = false := isKeyword_other delete (by decide)
    have name := readName_of_isName (.mk ho free) after
    simp only [List.cons_append, List.nil_append, Command.ofTokens, select, insert, update, delete,
      Bool.false_eq_true, if_false, if_true, readDelete,
      readKeyword_of_isKeyword (isKeyword_of_word hb), name, ok_bind]

/-! ## Assignments -/

def assignmentTokens : List String → List Token
  | [] => []
  | [name] => [.word name, .compare .eq, .placeholder (.named name) 0]
  | name :: other :: rest =>
    .word name :: .compare .eq :: .placeholder (.named name) 0 :: .comma ::
      assignmentTokens (other :: rest)

theorem ScansAs.assignment {name : String} (plain : Schema.isIdentifier name = true) :
    ScansAs (name.toList ++ ' ' :: (['='] ++ ' ' :: '@' :: name.toList))
      [.word name, .compare .eq, .placeholder (.named name) 0] :=
  (identifier plain).spaced ((symbol .eq).spaced (namedPlaceholder plain))

theorem ScansAs.listed {text : String → String} {tokens : String → List Token} {name : String}
    {rest : List String} (each : ∀ n ∈ name :: rest, ScansAs (text n).toList (tokens n)) :
    ScansAs (Statement.commaSeparated ((name :: rest).map text)).toList
      ([Token.comma].intercalate ((name :: rest).map tokens)) := by
  induction rest generalizing name with
  | nil =>
    have only := each name (List.mem_singleton_self name)
    simpa [Statement.commaSeparated] using only
  | cons other rest ih =>
    have spelled : (Statement.commaSeparated ((name :: other :: rest).map text)).toList
        = (text name).toList ++ ',' :: ' ' ::
            (Statement.commaSeparated ((other :: rest).map text)).toList := by
      simp [Statement.commaSeparated, String.intercalate_cons_cons]
    have first := each name (List.mem_cons_self ..)
    have others := ih fun n mem => each n (List.mem_cons_of_mem _ mem)
    rw [spelled]
    exact first.append (comma others.blank) (parts_cons (by decide) (by decide) (by decide))

theorem assignmentTokens_eq (names : List String) :
    assignmentTokens names = [Token.comma].intercalate (names.map fun n =>
      [.word n, .compare .eq, .placeholder (.named n) 0]) := by
  fun_induction assignmentTokens names with
  | case1 => rfl
  | case2 name => rfl
  | case3 name other rest ih => simp [ih, List.intercalate_cons_cons]

theorem ScansAs.assignments {name : String} {rest : List String}
    (plain : ∀ n ∈ name :: rest, Schema.isIdentifier n = true) :
    ScansAs (Statement.commaSeparated ((name :: rest).map fun n => s!"{n} = @{n}")).toList
      (assignmentTokens (name :: rest)) := by
  rw [assignmentTokens_eq]
  refine listed fun n mem => ?_
  have spelled : s!"{n} = @{n}".toList = n.toList ++ ' ' :: (['='] ++ ' ' :: '@' :: n.toList) := by
    simp [toString]
  rw [spelled]
  exact assignment (plain n mem)

theorem placeOf_of_not_mem {seen : List Marker} {name : String} (unseen : .named name ∉ seen) :
    placeOf seen (.named name) = seen.length ∧
      addMarker seen (.named name) = seen ++ [.named name] := by
  have grown : addMarker seen (.named name) = seen ++ [.named name] := if_neg unseen
  exact ⟨placeOf_of_lt_addMarker (by simp [grown]), grown⟩

/-- The column and the operand of each assignment. -/
def assigned (assignments : List (ColumnName × Operand)) : List (String × Operand) :=
  assignments.map fun (c, o) => (c.name, o)

/-- The parameters from a place on, one for each column. -/
def parametersFrom (place : Nat) (names : List String) : List (String × Operand) :=
  (names.zipIdx place).map fun (name, i) => (name, .parameter i)

theorem names_of_assigned {as : List (ColumnName × Operand)} {place : Nat} {names : List String}
    (columns : assigned as = parametersFrom place names) : (as.map fun a => a.1.name) = names := by
  have firsts := congrArg (List.map Prod.fst) columns
  rw [assigned, parametersFrom, List.map_map, List.map_map] at firsts
  exact firsts.trans (List.zipIdx_map_fst place names)

variable {ls : List Lexeme} {seen : List Marker} {name : String} {rest : List String}

theorem unseen_append (distinct : (name :: rest).Nodup)
    (unseen : ∀ n ∈ name :: rest, .named n ∉ seen) :
    ∀ n ∈ rest, .named n ∉ seen ++ [.named name] := by
  intro n mem old
  rcases List.mem_append.mp old with old | here
  · exact unseen n (List.mem_cons_of_mem _ mem) old
  · cases List.mem_singleton.mp here
    exact (List.nodup_cons.mp distinct).1 mem

/-- Placeholders of different names are numbered in their order. -/
theorem numbered_listed (front : String → List Token) {names : List String}
    (silent : ∀ n seen ts, numbered seen (front n ++ ts) = front n ++ numbered seen ts ∧
      markersAfter seen (front n ++ ts) = markersAfter seen ts)
    (distinct : names.Nodup) (unseen : ∀ n ∈ names, .named n ∉ seen) :
    let tokens := [Token.comma].intercalate
      (names.map fun n => front n ++ [.placeholder (.named n) 0])
    numbered seen tokens = [Token.comma].intercalate
        ((names.zipIdx seen.length).map fun (n, i) => front n ++ [.placeholder (.named n) i]) ∧
      markersAfter seen tokens = seen ++ names.map .named := by
  induction names generalizing seen with
  | nil => simp [numbered, markersAfter]
  | cons name rest ih =>
    obtain ⟨place, grown⟩ := placeOf_of_not_mem (unseen name (List.mem_cons_self ..))
    obtain ⟨tokens, markers⟩ := ih distinct.of_cons (unseen_append distinct unseen)
    cases rest with
    | nil => simp [silent, numbered, markersAfter, place, grown]
    | cons other rest =>
      simp only [List.map_cons, List.zipIdx_cons, List.length_append, List.length_singleton,
        List.intercalate_cons_cons, List.append_assoc, List.cons_append, List.nil_append,
        silent, numbered, markersAfter, place, grown] at tokens markers ⊢
      exact ⟨by rw [tokens], markers⟩

theorem length_le_intercalate {α : Type} (separator : α) (parts : List (List α)) :
    parts.length ≤ ([separator].intercalate parts).length + 1 := by
  induction parts with
  | nil => simp
  | cons part rest ih =>
    cases rest with
    | nil => simp
    | cons next rest =>
      simp only [List.intercalate_cons_cons, List.length_append, List.length_cons] at ih ⊢
      omega

/-- A list is read if each of its items is, and nothing that carries it on comes behind it. -/
theorem readItems_of_chunks {α β γ : Type}
    (item : List Lexeme → Except SyntaxError (α × List Lexeme))
    (shown : α → γ) (value : β → γ) {chunk : β → List Token} {xs : List β} (some : xs ≠ [])
    (each : ∀ x ∈ xs, ∀ ls rest, ls.map Lexeme.token = chunk x →
      ∃ v, item (ls ++ rest) = .ok (v, rest) ∧ shown v = value x)
    (spelled : ls.map Lexeme.token = [Token.comma].intercalate (xs.map chunk))
    {after : List Lexeme} (ends : ∀ l ∈ after.head?, l.token ≠ .comma) :
    ∃ vs, readItems item (ls ++ after) = .ok (vs, after) ∧ vs.map shown = xs.map value := by
  have enough : xs.length ≤ (ls ++ after).length + 1 := by
    have size := length_le_intercalate Token.comma (xs.map chunk)
    rw [← spelled, List.length_map, List.length_map] at size
    rw [List.length_append]
    omega
  unfold readItems
  generalize (ls ++ after).length + 1 = fuel at enough
  induction xs generalizing ls fuel with
  | nil => exact absurd rfl some
  | cons x xs ih =>
    obtain ⟨fuel, rfl⟩ : ∃ n, fuel = n + 1 := ⟨fuel - 1, by
      rw [List.length_cons] at enough
      omega⟩
    have first := each x (List.mem_cons_self ..)
    cases xs with
    | nil =>
      rw [List.map_singleton, List.intercalate_singleton] at spelled
      obtain ⟨v, read, same⟩ := first ls after spelled
      refine ⟨[v], ?_, by simp [same]⟩
      rw [readList, read, ok_bind]
      cases after with
      | nil => rfl
      | cons l after => simp [ends l rfl, pure, Except.pure]
    | cons next xs =>
      rw [List.map_cons, List.map_cons, List.intercalate_cons_cons, List.append_assoc,
        List.singleton_append, List.map_eq_append_iff] at spelled
      obtain ⟨front, back, rfl, here, later⟩ := spelled
      obtain ⟨comma, back, rfl, isComma, later⟩ := List.map_eq_cons_iff.mp later
      obtain ⟨v, read, same⟩ := first front (comma :: (back ++ after)) here
      obtain ⟨vs, more, others⟩ := ih (List.cons_ne_nil _ _)
        (fun y mem => each y (List.mem_cons_of_mem _ mem)) later fuel
        (Nat.le_of_succ_le_succ enough)
      refine ⟨v :: vs, ?_, by simp [same, others]⟩
      rw [List.append_assoc, List.cons_append, readList, read, ok_bind]
      simp only [isComma, if_true, more, ok_bind]
      rfl

theorem readAssignment_of_tokens {a b e : Lexeme} (free : isKeyword name = false)
    (ha : a.token = .word name) (hb : b.token = .compare .eq) {m : Marker} {place : Nat}
    (he : e.token = .placeholder m place) (rest : List Lexeme) :
    readAssignment (a :: b :: e :: rest) = .ok ((⟨name, a.offset⟩, .parameter place), rest) := by
  simp only [readAssignment, readName_of_isName (.mk ha free), ok_bind, readToken, hb, if_true,
    readOperand_of_isOperand (.parameter he)]
  rfl

theorem numbered_assignments {names : List String} (distinct : names.Nodup)
    (unseen : ∀ n ∈ names, .named n ∉ seen) :
    numbered seen (assignmentTokens names) = [Token.comma].intercalate
        ((names.zipIdx seen.length).map fun (n, i) =>
          [.word n, .compare .eq, .placeholder (.named n) i]) ∧
      markersAfter seen (assignmentTokens names) = seen ++ names.map .named := by
  rw [assignmentTokens_eq]
  exact numbered_listed (fun n => [.word n, .compare .eq]) (fun n seen ts => ⟨rfl, rfl⟩) distinct
    unseen

/-- Assignments of placeholders read as one parameter for each column, from the number of the
placeholders before them on. -/
theorem readItems_of_assignments {names : List String} (some : names ≠ [])
    (distinct : names.Nodup) (unseen : ∀ n ∈ names, .named n ∉ seen)
    (free : ∀ n ∈ names, isKeyword n = false)
    (spelled : ls.map Lexeme.token = numbered seen (assignmentTokens names))
    {after : List Lexeme} (ends : ∀ l ∈ after.head?, l.token ≠ .comma) :
    ∃ as, readItems readAssignment (ls ++ after) = .ok (as, after) ∧
      assigned as = parametersFrom seen.length names := by
  rw [(numbered_assignments distinct unseen).1] at spelled
  refine readItems_of_chunks readAssignment (fun (c, o) => (c.name, o))
    (fun (name, i) => (name, .parameter i)) (by simpa using some) ?_ spelled ends
  rintro ⟨n, i⟩ mem ls rest chunk
  simp only [List.map_eq_cons_iff, List.map_eq_nil_iff] at chunk
  obtain ⟨a, _, rfl, ha, b, _, rfl, hb, e, _, rfl, he, rfl⟩ := chunk
  exact ⟨_, readAssignment_of_tokens (free n (List.fst_mem_of_mem_zipIdx mem)) ha hb he rest, rfl⟩

end Sql

/-! ## Whole statements -/

theorem clean_commaSeparated {parts : List String} (clean : ∀ s ∈ parts, Clean s) :
    Clean (Statement.commaSeparated parts) := by
  have comma : Clean ", " := by unfold Clean; decide
  induction parts with
  | nil => exact (by decide : '\x00' ∉ "".toList)
  | cons s rest ih =>
    cases rest with
    | nil => simpa [Statement.commaSeparated] using clean s (List.mem_singleton_self s)
    | cons next rest =>
      have others := ih fun s mem => clean s (List.mem_cons_of_mem _ mem)
      have spelled : Statement.commaSeparated (s :: next :: rest)
          = s ++ ", " ++ Statement.commaSeparated (next :: rest) := by
        simp [Statement.commaSeparated, String.intercalate_cons_cons]
      rw [spelled]
      exact ((clean s (List.mem_cons_self ..)).append comma).append others

/-- An UPDATE of all columns, up to its filter. -/
def Statement.updateAll (d : Descriptor) : String :=
  let assignments := d.columnNames.map fun name => s!"{name} = @{name}"
  s!"UPDATE {d.table} SET {commaSeparated assignments}"

section

variable {d : Descriptor} {decl : Declaration} {mode : FilterMode} {p : Predicate} {f : Filter}

theorem Descriptor.IsOf.names (accepted : d.IsOf decl) :
    ∃ name rest, d.columnNames = name :: rest ∧ (name :: rest).Nodup ∧
      ∀ n ∈ name :: rest, Schema.isIdentifier n = true := by
  have plain : ∀ n ∈ d.columnNames, Schema.isIdentifier n = true := by
    intro n mem
    obtain ⟨c, hc, rfl⟩ := List.mem_map.mp mem
    exact accepted.columns c hc
  have distinct : d.columnNames.Nodup := by
    refine List.pairwise_map.mpr (accepted.apart.imp fun apart same => ?_)
    rw [same] at apart
    simp [Schema.sameName] at apart
  have some : d.columnNames ≠ [] := by
    rw [Descriptor.columnNames, ne_eq, List.map_eq_nil_iff]
    exact accepted.nonempty
  obtain ⟨name, rest, shape⟩ := List.exists_cons_of_ne_nil some
  rw [shape] at plain distinct
  exact ⟨name, rest, shape, distinct, plain⟩

theorem Sql.isOpening_update (accepted : d.IsOf decl) :
    IsOpening (Statement.updateAll d)
      (.word "UPDATE" :: .word d.table :: .word "SET" :: assignmentTokens d.columnNames) := by
  obtain ⟨name, rest, shape, _, plain⟩ := accepted.names
  constructor
  case clean =>
    have update : Clean "UPDATE " := by unfold Clean; decide
    have set : Clean " SET " := by unfold Clean; decide
    have equals : Clean " = @" := by unfold Clean; decide
    have assignments : Clean (Statement.commaSeparated
        (d.columnNames.map fun name => s!"{name} = @{name}")) := by
      refine clean_commaSeparated fun s mem => ?_
      obtain ⟨n, hn, rfl⟩ := List.mem_map.mp mem
      rw [shape] at hn
      have ok := clean_of_isIdentifier (plain n hn)
      exact (ok.append equals).append ok
    exact ((update.append (clean_of_isIdentifier accepted.table)).append set).append assignments
  case scans =>
    have spelled : (Statement.updateAll d).toList
        = "UPDATE".toList ++ ' ' :: (d.table.toList ++ ' ' :: ("SET".toList ++ ' ' ::
            (Statement.commaSeparated (d.columnNames.map fun n => s!"{n} = @{n}")).toList)) := by
      simp [Statement.updateAll, toString]
    rw [spelled, shape]
    exact (ScansAs.identifier (by decide)).spaced
      ((ScansAs.identifier accepted.table).keyword (by decide) (ScansAs.assignments plain))

theorem Sql.isHead_update (accepted : d.IsOf decl) (freeTable : isKeyword d.table = false)
    (free : ∀ c ∈ d.columns, isKeyword c.name = false) :
    IsHead (Statement.updateAll d)
      (.word "UPDATE" :: .word d.table :: .word "SET" :: assignmentTokens d.columnNames)
      fun make => ∃ as, assigned as = parametersFrom 0 d.columnNames ∧
        make = .update d.table as := by
  obtain ⟨name, rest, shape, distinct, _⟩ := accepted.names
  have reserved : ∀ n ∈ name :: rest, isKeyword n = false := by
    intro n mem
    rw [← shape] at mem
    obtain ⟨c, hc, rfl⟩ := List.mem_map.mp mem
    exact free c hc
  constructor
  case clean => exact (isOpening_update accepted).clean
  case scans => exact (isOpening_update accepted).scans
  case reads =>
    intro ls after spelled opens
    simp only [numbered, List.map_eq_cons_iff] at spelled
    obtain ⟨a, _, rfl, ha, b, _, rfl, hb, e, ls, rfl, he, assignments⟩ := spelled
    have update := isKeyword_of_word ha
    have select : a.isKeyword "SELECT" = false := isKeyword_other update (by decide)
    have insert : a.isKeyword "INSERT" = false := isKeyword_other update (by decide)
    rw [shape] at assignments
    have ends : ∀ m ∈ after.head?, m.token ≠ .comma := by
      intro m hm
      simp [opens m hm]
    obtain ⟨as, read, values⟩ := readItems_of_assignments (List.cons_ne_nil _ _) distinct
      (fun _ _ => List.not_mem_nil) reserved assignments ends
    refine ⟨.update d.table as, ⟨as, by rw [shape]; exact values, rfl⟩, ?_⟩
    simp only [List.cons_append, Command.ofTokens, select, insert, update, Bool.false_eq_true,
      if_false, if_true, readUpdate, readName_of_isName (.mk hb freeTable), ok_bind,
      readKeyword_of_isKeyword (isKeyword_of_word he), read]

/-- The head of an UPDATE asks for one parameter for each column. -/
theorem Sql.level_update (accepted : d.IsOf decl) {values : List Value}
    (arity : values.length = d.columns.length) :
    values.length = (markersAfter [] (.word "UPDATE" :: .word d.table :: .word "SET" ::
      assignmentTokens d.columnNames)).length := by
  obtain ⟨name, rest, shape, distinct, _⟩ := accepted.names
  have size := congrArg List.length shape
  rw [Descriptor.columnNames, List.length_map] at size
  have unseen : ∀ n ∈ name :: rest, Marker.named n ∉ ([] : List Marker) := fun _ _ =>
    List.not_mem_nil
  rw [arity, size, shape]
  simp [markersAfter, (numbered_assignments distinct unseen).2]

theorem Statement.delete_eq (plain : ∀ c ∈ d.columns, Schema.isIdentifier c.name = true)
    (compiled : Filter.ofPredicate d.columns mode p = .ok f) :
    delete d f = ⟨"DELETE FROM " ++ d.table ++ " WHERE " ++ f.text, f.parameters⟩ :=
  filtered_eq plain compiled _ []

theorem Statement.update_eq (plain : ∀ c ∈ d.columns, Schema.isIdentifier c.name = true)
    (compiled : Filter.ofPredicate d.columns mode p = .ok f) {values : List Value}
    (arity : values.length = d.columns.length) :
    update d values f = .ok ⟨updateAll d ++ " WHERE " ++ f.text, values ++ f.parameters⟩ := by
  simp only [update, checkArity, arity, if_true, ok_bind]
  exact congrArg Except.ok (filtered_eq plain compiled _ values)

/-- The DELETE of a predicate is read as the command for it where its SELECT is. -/
theorem Command.read_delete (accepted : d.IsOf decl) (freeTable : isKeyword d.table = false)
    (free : ∀ c ∈ d.columns, isReserved c.name = false)
    (compiled : Filter.ofPredicate d.columns mode p = .ok f)
    (readable : Filter.IsReadable mode p) (few : f.parameters.length ≤ maxParameters) :
    ∃ c, c.Mirrors d.columns mode f.parameters p.leftNested ∧
      (c.height ≤ maxHeight → Command.read (scan (Statement.delete d f).sql)
        = .ok (.delete d.table (some c))) ∧
      (parameterMarkers (scan (Statement.delete d f).sql)).length = f.parameters.length := by
  have level : ([] : List Value).length = (markersAfter []
      [.word "DELETE", .word "FROM", .word d.table]).length := rfl
  obtain ⟨c, make, rfl, mirrors, _, reads, needed⟩ := Command.read_filtered
    (isHead_delete accepted.table freeTable) level accepted.columns (p.usesFree_of_free free)
    compiled readable
  simp only [List.length_nil, Nat.zero_add, List.nil_append] at mirrors reads needed
  rw [Statement.delete_eq accepted.columns compiled]
  refine ⟨c, mirrors, fun low => ?_, needed⟩
  rw [reads few, if_neg (Nat.not_lt.mpr low)]

/-- The UPDATE of a predicate is read as the command that assigns the first parameters to the
columns, as long as all parameters together are not too many. -/
theorem Command.read_update (accepted : d.IsOf decl) (freeTable : isKeyword d.table = false)
    (free : ∀ c ∈ d.columns, isReserved c.name = false)
    (compiled : Filter.ofPredicate d.columns mode p = .ok f)
    (readable : Filter.IsReadable mode p) {values : List Value}
    (arity : values.length = d.columns.length)
    (few : values.length + f.parameters.length ≤ maxParameters) :
    ∃ c as, c.Mirrors d.columns mode (values ++ f.parameters) p.leftNested ∧
      assigned as = parametersFrom 0 d.columnNames ∧
      (c.height ≤ maxHeight → Command.read (scan (Statement.updateAll d ++ " WHERE " ++ f.text))
        = .ok (.update d.table as (some c))) ∧
      (parameterMarkers (scan (Statement.updateAll d ++ " WHERE " ++ f.text))).length
        = values.length + f.parameters.length := by
  obtain ⟨c, make, ⟨as, columns, rfl⟩, mirrors, _, reads, needed⟩ := Command.read_filtered
    (isHead_update accepted freeTable fun c hc => isKeyword_of_free (free c hc))
    (level_update accepted arity) accepted.columns (p.usesFree_of_free free) compiled readable
  refine ⟨c, as, mirrors, columns, fun low => ?_, needed⟩
  rw [reads few, if_neg (Nat.not_lt.mpr low)]

end

end RecordStore
