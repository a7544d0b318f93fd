import RecordStore.Proofs.Sql.Parameters

/-!
The INSERT of a descriptor. It reads as the command that takes, for each column, the parameter
at the place of the column.
-/
namespace RecordStore

open Sql

section

variable {d : Descriptor} {decl : Declaration} {ls : List Lexeme}

theorem Descriptor.free_names (free : ∀ c ∈ d.columns, isKeyword c.name = false) :
    ∀ n ∈ d.columnNames, isKeyword n = false := by
  intro n mem
  obtain ⟨c, hc, rfl⟩ := List.mem_map.mp mem
  exact free c hc

namespace Sql

theorem readItems_of_names {names : List String} (some : names ≠ [])
    (free : ∀ n ∈ names, isKeyword n = false)
    (spelled : ls.map Lexeme.token = (names.map Token.word).intersperse .comma)
    {after : List Lexeme} (ends : ∀ l ∈ after.head?, l.token ≠ .comma) :
    ∃ cs, readItems readName (ls ++ after) = .ok (cs, after) ∧ cs.map ColumnName.name = names := by
  rw [← intercalate_singleton] at spelled
  have each : ∀ n ∈ names, ∀ ls rest, ls.map Lexeme.token = [.word n] →
      ∃ c, readName (ls ++ rest) = .ok (c, rest) ∧ c.name = id n := by
    intro n mem ls rest chunk
    obtain ⟨l, _, rfl, word, last⟩ := List.map_eq_cons_iff.mp chunk
    cases List.map_eq_nil_iff.mp last
    exact ⟨_, readName_of_isName (.mk word (free n mem)) rest, rfl⟩
  obtain ⟨cs, read, same⟩ := readItems_of_chunks readName ColumnName.name id some each spelled ends
  exact ⟨cs, read, by rw [same, List.map_id]⟩

theorem readItems_of_placeholders {names : List String} (some : names ≠ [])
    (spelled : ls.map Lexeme.token = (names.zipIdx.map fun (n, i) =>
      Token.placeholder (.named n) i).intersperse .comma)
    {after : List Lexeme} (ends : ∀ l ∈ after.head?, l.token ≠ .comma) :
    readItems readOperand (ls ++ after)
      = .ok ((List.range names.length).map .parameter, after) := by
  rw [← intercalate_singleton] at spelled
  have each : ∀ x ∈ names.zipIdx, ∀ ls rest,
      ls.map Lexeme.token = [Token.placeholder (.named x.1) x.2] →
      ∃ o, readOperand (ls ++ rest) = .ok (o, rest) ∧ id o = .parameter x.2 := by
    intro x _ ls rest chunk
    obtain ⟨l, _, rfl, token, last⟩ := List.map_eq_cons_iff.mp chunk
    cases List.map_eq_nil_iff.mp last
    exact ⟨_, readOperand_of_isOperand (.parameter token) rest, rfl⟩
  obtain ⟨os, read, same⟩ := readItems_of_chunks readOperand id (fun x => .parameter x.2)
    (by simpa using some) each spelled ends
  have places : (names.zipIdx.map fun x => Operand.parameter x.2)
      = (List.range names.length).map .parameter := by
    rw [List.range_eq_range', ← List.zipIdx_map_snd, List.map_map]
    rfl
  rw [read, ← places, ← same, List.map_id]

end Sql

/-- The INSERT of all columns takes one parameter for each, unless the columns are too many. -/
theorem Command.read_insert (accepted : d.IsOf decl) (freeTable : isKeyword d.table = false)
    (free : ∀ c ∈ d.columns, isKeyword c.name = false) :
    ∃ columns, columns.map ColumnName.name = d.columnNames ∧
      (maxParameters < d.columns.length →
        ∃ e, Command.read (scan (Statement.insertAll d)) = .error e ∧ e.IsLimit) ∧
      (d.columns.length ≤ maxParameters → Command.read (scan (Statement.insertAll d))
        = .ok (.insert d.table columns ((List.range d.columns.length).map .parameter))) := by
  have some : d.columnNames ≠ [] := by
    rw [Descriptor.columnNames, ne_eq, List.map_eq_nil_iff]
    exact accepted.nonempty
  have spelled := (isOpening_insert accepted).tokens (.inl rfl)
  obtain ⟨tokens, fresh, markers⟩ := numbered_insertTokens accepted
  have size : (markersAfter [] (insertTokens d (d.columnNames.map fun n =>
      .placeholder (.named n) 0))).length = d.columns.length := by
    rw [fresh, markers]
    simp [Descriptor.columnNames]
  have fits := excessPlaceholder?_eq_none spelled
  have exceeds := excessPlaceholder?_ne_none spelled
  rw [size] at fits exceeds
  rw [tokens] at spelled
  generalize scan (Statement.insertAll d) = ls at spelled fits exceeds
  obtain ⟨columns, names, read⟩ : ∃ columns, columns.map ColumnName.name = d.columnNames ∧
      Command.ofTokens ls
        = .ok (.insert d.table columns ((List.range d.columns.length).map .parameter)) := by
    simp only [insertTokens, List.cons_append, List.nil_append, List.append_assoc,
      List.map_eq_cons_iff, List.map_eq_append_iff, List.map_eq_nil_iff] at spelled
    obtain ⟨a, _, rfl, ha, b, _, rfl, hb, t, _, rfl, ht, o, _, rfl, ho, front, _, rfl, hfront,
      e, _, rfl, he, v, _, rfl, hv, q, _, rfl, hq, back, _, rfl, hback, z, _, rfl, hz, rfl⟩ :=
      spelled
    have insert := isKeyword_of_word ha
    have select : a.isKeyword "SELECT" = false := isKeyword_other insert (by decide)
    have endsNames : ∀ l ∈ (e :: v :: q :: (back ++ [z])).head?, l.token ≠ .comma := by simp [he]
    have endsValues : ∀ l ∈ [z].head?, l.token ≠ .comma := by simp [hz]
    obtain ⟨columns, names, same⟩ :=
      readItems_of_names some (Descriptor.free_names free) hfront endsNames
    have values := readItems_of_placeholders some hback endsValues
    refine ⟨columns, same, ?_⟩
    simp only [Command.ofTokens, select, insert, Bool.false_eq_true, if_false, if_true, readInsert,
      readKeyword_of_isKeyword (isKeyword_of_word hb), readName_of_isName (.mk ht freeTable),
      readToken, ho, ok_bind, names, he, readKeyword_of_isKeyword (isKeyword_of_word hv), hq,
      values, hz, finish]
    simp [Descriptor.columnNames]
  refine ⟨columns, names, fun many => ?_, fun few => ?_⟩
  · obtain ⟨l, excess⟩ := Option.ne_none_iff_exists'.mp (exceeds many)
    rw [Command.read, read, excess]
    exact ⟨_, rfl, .inr rfl⟩
  · rw [Command.read, read, fits few]
    rfl

end

end RecordStore
