import RecordStore.Proofs.Sql.Grammar
import RecordStore.Proofs.Sql.Objections
import RecordStore.Proofs.Sql.Scanning
import RecordStore.Statement
import RecordStore.Store.Connection

/-!
The first word of a statement decides what it can do. Texts that begin with one of four words
read or change the rows of a table, and never begin or end a transaction.
-/
namespace RecordStore

open Sql

namespace Sql

theorem finish_ok {c command : Command} {tokens : List Lexeme}
    (read : finish c tokens = .ok command) : command = c := by
  unfold finish at read
  split at read
  · exact (Except.ok.inj read).symm
  · split at read
    · exact (Except.ok.inj read).symm
    · cases read
  · split at read <;> cases read

theorem finishTransaction_ok {c command : Command} {tokens : List Lexeme}
    (read : finishTransaction c tokens = .ok command) : command = c := by
  cases tokens with
  | nil =>
    rw [finishTransaction] at read
    exact finish_ok read
  | cons l rest =>
    rw [finishTransaction] at read
    exact finish_ok read

theorem select_of_readSource {columns : Option (List ColumnName)} {tokens : List Lexeme}
    {command : Command} (read : readSource columns tokens = .ok command) :
    ∃ columns name filter, command = .select columns name filter := by
  obtain ⟨rest, _, read⟩ := bind_eq_ok read
  obtain ⟨⟨table, rest⟩, _, read⟩ := bind_eq_ok read
  obtain ⟨⟨filter, rest⟩, _, read⟩ := bind_eq_ok read
  exact ⟨columns, table.name, filter, finish_ok read⟩

theorem select_of_readSelect {tokens : List Lexeme} {command : Command}
    (read : readSelect tokens = .ok command) :
    ∃ columns name filter, command = .select columns name filter := by
  unfold readSelect at read
  split at read
  · split at read
    · exact select_of_readSource read
    · obtain ⟨⟨names, rest⟩, _, read⟩ := bind_eq_ok read
      exact select_of_readSource read
  · cases read

theorem insert_of_readInsert {tokens : List Lexeme} {command : Command}
    (read : readInsert tokens = .ok command) :
    ∃ name columns values, command = .insert name columns values := by
  obtain ⟨rest, _, read⟩ := bind_eq_ok read
  obtain ⟨⟨table, rest⟩, _, read⟩ := bind_eq_ok read
  obtain ⟨rest, _, read⟩ := bind_eq_ok read
  obtain ⟨⟨columns, rest⟩, _, read⟩ := bind_eq_ok read
  obtain ⟨rest, _, read⟩ := bind_eq_ok read
  obtain ⟨rest, _, read⟩ := bind_eq_ok read
  obtain ⟨rest, _, read⟩ := bind_eq_ok read
  obtain ⟨⟨values, rest⟩, _, read⟩ := bind_eq_ok read
  obtain ⟨rest, _, read⟩ := bind_eq_ok read
  exact ⟨_, _, _, finish_ok read⟩

theorem update_of_readUpdate {tokens : List Lexeme} {command : Command}
    (read : readUpdate tokens = .ok command) :
    ∃ name assignments filter, command = .update name assignments filter := by
  obtain ⟨⟨table, rest⟩, _, read⟩ := bind_eq_ok read
  obtain ⟨rest, _, read⟩ := bind_eq_ok read
  obtain ⟨⟨assignments, rest⟩, _, read⟩ := bind_eq_ok read
  obtain ⟨⟨filter, rest⟩, _, read⟩ := bind_eq_ok read
  exact ⟨_, _, _, finish_ok read⟩

theorem delete_of_readDelete {tokens : List Lexeme} {command : Command}
    (read : readDelete tokens = .ok command) : ∃ name filter, command = .delete name filter := by
  obtain ⟨rest, _, read⟩ := bind_eq_ok read
  obtain ⟨⟨table, rest⟩, _, read⟩ := bind_eq_ok read
  obtain ⟨⟨filter, rest⟩, _, read⟩ := bind_eq_ok read
  exact ⟨_, _, finish_ok read⟩

def changeWords : List String := ["INSERT", "UPDATE", "DELETE"]

def rowWords : List String := ["SELECT", "INSERT", "UPDATE", "DELETE"]

def IsAboutRows (sql : String) : Prop :=
  ∃ word ∈ rowWords, ∃ rest, sql.toList = word.toList ++ ' ' :: rest

/-- A text that changes rows, or is no statement at all. -/
def IsChange (sql : String) : Prop :=
  ∃ word ∈ changeWords, ∃ rest, sql.toList = word.toList ++ ' ' :: rest

theorem IsChange.isAboutRows {sql : String} (change : IsChange sql) : IsAboutRows sql := by
  obtain ⟨word, mem, text⟩ := change
  exact ⟨word, List.mem_cons_of_mem _ mem, text⟩

def Command.changesRows : Command → Bool
  | .insert _ _ _ | .update _ _ _ | .delete _ _ => true
  | _ => false

theorem Command.table?_of_changesRows {command : Command} (changes : command.changesRows = true) :
    command.table?.isSome = true := by
  cases command with
  | insert | update | delete => rfl
  | select | begin | commit | rollback | limitPages | nothing => cases changes

theorem changesRows_of_ofTokens {l : Lexeme} {rest : List Lexeme} {command : Command}
    {word : String} (mem : word ∈ changeWords) (token : l.token = .word word)
    (read : Command.ofTokens (l :: rest) = .ok command) : command.changesRows = true := by
  have keyword : l.isKeyword word = true := isKeyword_of_word token
  have other : ∀ w, Schema.foldCase word ≠ Schema.foldCase w → ¬ l.isKeyword w = true := by
    intro w apart
    rw [isKeyword_other keyword apart]
    decide
  simp only [changeWords, List.mem_cons, List.not_mem_nil, or_false] at mem
  rcases mem with rfl | rfl | rfl
  · rw [Command.ofTokens, if_neg (other "SELECT" (by decide)), if_pos keyword] at read
    obtain ⟨name, columns, values, rfl⟩ := insert_of_readInsert read
    rfl
  · rw [Command.ofTokens, if_neg (other "SELECT" (by decide)),
      if_neg (other "INSERT" (by decide)), if_pos keyword] at read
    obtain ⟨name, assignments, filter, rfl⟩ := update_of_readUpdate read
    rfl
  · rw [Command.ofTokens, if_neg (other "SELECT" (by decide)),
      if_neg (other "INSERT" (by decide)), if_neg (other "UPDATE" (by decide)),
      if_pos keyword] at read
    obtain ⟨name, filter, rfl⟩ := delete_of_readDelete read
    rfl

theorem scan_first {word sql : String} {rest : List Char}
    (plain : Schema.isIdentifier word = true) (clean : '\x00' ∉ word.toList)
    (text : sql.toList = word.toList ++ ' ' :: rest) :
    ∃ l ls, scan sql = l :: ls ∧ l.token = .word word := by
  have effective : effective sql
      = word.toList ++ ' ' :: rest.takeWhile fun c => c != '\x00' := by
    rw [Sql.effective, text, List.takeWhile_append_of_pos, List.takeWhile_cons]
    · rfl
    · intro c mem
      rw [bne_iff_ne]
      intro zero
      exact clean (zero ▸ mem)
  obtain ⟨ls, offset, token, scanned⟩ :=
    ScansAs.identifier plain 0 _ (parts_blank (rest.takeWhile fun c => c != '\x00'))
  rw [List.map_eq_cons_iff] at token
  obtain ⟨l, _, rfl, hl, none⟩ := token
  refine ⟨l, numberFrom [] (lexemesFrom offset
    (' ' :: rest.takeWhile fun c => c != '\x00')), ?_, hl⟩
  have numbered : scan sql = numberFrom [] (lexemesFrom 0 (Sql.effective sql)) := rfl
  rw [numbered, effective, scanned, List.map_eq_nil_iff.mp none]
  simp [numberFrom, hl]

theorem ofTokens_of_read {sql word : String} {rest : List Char} {command : Command}
    (mem : word ∈ rowWords) (text : sql.toList = word.toList ++ ' ' :: rest)
    (read : Command.read (scan sql) = .ok command) :
    ∃ l ls, l.token = .word word ∧ Command.ofTokens (l :: ls) = .ok command := by
  have plain : ∀ w ∈ rowWords, Schema.isIdentifier w = true ∧ '\x00' ∉ w.toList := by
    decide
  obtain ⟨l, ls, scanned, token⟩ := scan_first (plain word mem).1 (plain word mem).2 text
  rw [scanned] at read
  obtain ⟨c, ofTokens, read⟩ := bind_eq_ok read
  split at read
  · cases read
  · cases Except.ok.inj read
    exact ⟨l, ls, token, ofTokens⟩

theorem select_of_read {sql : String} {rest : List Char} {command : Command}
    (text : sql.toList = "SELECT".toList ++ ' ' :: rest)
    (read : Command.read (scan sql) = .ok command) :
    ∃ columns name filter, command = .select columns name filter := by
  obtain ⟨l, ls, token, ofTokens⟩ := ofTokens_of_read (by decide) text read
  rw [Command.ofTokens, if_pos (isKeyword_of_word token)] at ofTokens
  exact select_of_readSelect ofTokens

theorem IsChange.changesRows {sql : String} {command : Command} (change : IsChange sql)
    (read : Command.read (scan sql) = .ok command) : command.changesRows = true := by
  obtain ⟨word, mem, rest, text⟩ := change
  obtain ⟨l, ls, token, ofTokens⟩ := ofTokens_of_read (List.mem_cons_of_mem _ mem) text read
  exact changesRows_of_ofTokens mem token ofTokens

/-- A text about rows is never read as anything else. -/
theorem IsAboutRows.table? {sql : String} {command : Command} (about : IsAboutRows sql)
    (read : Command.read (scan sql) = .ok command) : command.table?.isSome = true := by
  obtain ⟨word, mem, rest, text⟩ := about
  rcases List.mem_cons.mp mem with rfl | mem
  · obtain ⟨columns, name, filter, rfl⟩ := select_of_read text read
    rfl
  · have change : IsChange sql := ⟨word, mem, rest, text⟩
    exact Command.table?_of_changesRows (change.changesRows read)

end Sql

namespace Statement

theorem begins_filtered {sql : String} {word : List Char} {rest : List Char}
    (text : sql.toList = word ++ ' ' :: rest) (parameters : List Value) (f : Filter) :
    ∃ rest, (filtered sql parameters f).sql.toList = word ++ ' ' :: rest := by
  unfold filtered
  split
  · exact ⟨rest, text⟩
  · refine ⟨rest ++ " WHERE ".toList ++ f.text.toList, ?_⟩
    simp [text]

theorem begins_select (d : Descriptor) (f : Filter) :
    ∃ rest, (select d f).sql.toList = "SELECT".toList ++ ' ' :: rest := by
  have text : ("SELECT * FROM " ++ d.table).toList
      = "SELECT".toList ++ ' ' :: ("* FROM ".toList ++ d.table.toList) := by simp
  exact begins_filtered text [] f

theorem isAboutRows_select (d : Descriptor) (f : Filter) : IsAboutRows (select d f).sql := by
  obtain ⟨rest, text⟩ := begins_select d f
  exact ⟨"SELECT", by decide, rest, text⟩

theorem isChange_delete (d : Descriptor) (f : Filter) : IsChange (delete d f).sql := by
  have text : ("DELETE FROM " ++ d.table).toList
      = "DELETE".toList ++ ' ' :: ("FROM ".toList ++ d.table.toList) := by simp
  obtain ⟨rest, text⟩ := begins_filtered text [] f
  exact ⟨"DELETE", by decide, rest, text⟩

theorem isChange_insert {d : Descriptor} {values : List Value} {statement : Statement}
    (built : insert d values = .ok statement) : IsChange statement.sql := by
  obtain ⟨_, _, built⟩ := bind_eq_ok built
  cases Except.ok.inj built
  refine ⟨"INSERT", by decide, "INTO ".toList ++ d.table.toList ++ " (".toList
    ++ (commaSeparated d.columnNames).toList ++ ") VALUES (".toList
    ++ (commaSeparated (d.columnNames.map ("@" ++ ·))).toList ++ ")".toList, ?_⟩
  simp [toString]

theorem isChange_update {d : Descriptor} {values : List Value} {f : Filter}
    {statement : Statement} (built : update d values f = .ok statement) :
    IsChange statement.sql := by
  obtain ⟨_, _, built⟩ := bind_eq_ok built
  cases Except.ok.inj built
  let assignments := commaSeparated (d.columnNames.map fun name => s!"{name} = @{name}")
  have text : s!"UPDATE {d.table} SET {assignments}".toList = "UPDATE".toList ++ ' ' ::
      (d.table.toList ++ " SET ".toList ++ assignments.toList) := by simp [toString]
  obtain ⟨rest, text⟩ := begins_filtered text values f
  exact ⟨"UPDATE", by decide, rest, text⟩

end Statement

end RecordStore
