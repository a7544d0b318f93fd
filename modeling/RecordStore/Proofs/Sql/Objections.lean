import RecordStore.Proofs.Outcome
import RecordStore.Sql.Command

/-!
What readers object to. A text that is no statement fails under the general code of the engine,
whatever it is that stands at the wrong place.
-/
namespace RecordStore

namespace Sql

def SyntaxError.IsGeneral (e : SyntaxError) : Prop := e.cause.code = .general

abbrev Objects {α : Type} (x : Except SyntaxError α) : Prop := FailsOnly SyntaxError.IsGeneral x

theorem objects_unexpected {α : Type} (tokens : List Lexeme) :
    Objects (.error (unexpected tokens) : Except SyntaxError α) := by
  apply FailsOnly.error
  cases tokens with
  | nil => rfl
  | cons l rest =>
    rw [unexpected]
    split <;> rfl

theorem objects_readKeyword (keyword : String) (tokens : List Lexeme) :
    Objects (readKeyword keyword tokens) := by
  cases tokens with
  | nil => exact objects_unexpected []
  | cons l rest =>
    rw [readKeyword]
    split
    · exact .ok rest
    · exact objects_unexpected _

theorem objects_readToken (token : Token) (tokens : List Lexeme) :
    Objects (readToken token tokens) := by
  cases tokens with
  | nil => exact objects_unexpected []
  | cons l rest =>
    rw [readToken]
    split
    · exact .ok rest
    · exact objects_unexpected _

theorem objects_readName (tokens : List Lexeme) : Objects (readName tokens) := by
  cases tokens with
  | nil => exact objects_unexpected []
  | cons l rest =>
    rw [readName]
    split
    · split
      · exact objects_unexpected _
      · exact .ok _
    · exact objects_unexpected _

theorem objects_readColumn (tokens : List Lexeme) : Objects (readColumn tokens) := by
  apply (objects_readName tokens).bind
  rintro ⟨column, rest⟩
  dsimp only
  split
  · exact objects_unexpected _
  split
  · exact .error rfl
  · exact .ok _

theorem objects_refuseQuery (tokens : List Lexeme) : Objects (refuseQuery tokens) := by
  cases tokens with
  | nil => exact .ok ()
  | cons l rest =>
    rw [refuseQuery]
    split
    · exact objects_unexpected _
    · exact .ok ()

theorem objects_readOperand (tokens : List Lexeme) : Objects (readOperand tokens) := by
  cases tokens with
  | nil => exact objects_unexpected []
  | cons l rest =>
    rw [readOperand]
    split
    · exact .ok _
    · exact .ok _
    · exact objects_unexpected _

theorem objects_readNullTest (column : ColumnName) (tokens : List Lexeme) :
    Objects (readNullTest column tokens) := by
  cases tokens with
  | nil => exact objects_unexpected []
  | cons l rest =>
    rw [readNullTest]
    split
    · exact (objects_readKeyword ..).bind fun rest => .ok _
    · exact (objects_readKeyword ..).bind fun rest => .ok _

theorem objects_readTest (tokens : List Lexeme) : Objects (readTest tokens) := by
  apply (objects_readColumn tokens).bind
  rintro ⟨column, rest⟩
  cases rest with
  | nil => exact objects_unexpected []
  | cons l rest =>
    dsimp only
    split
    · exact (objects_readOperand rest).bind fun _ => .ok _
    · split
      · exact objects_readNullTest column rest
      · exact objects_unexpected _

mutual

theorem objects_readCondition (fuel : Nat) (tokens : List Lexeme) :
    Objects (readCondition fuel tokens) := by
  cases fuel with
  | zero => exact objects_unexpected _
  | succ fuel =>
    exact (objects_readConjunction fuel tokens).bind fun _ => objects_readAlternatives fuel _ _

theorem objects_readAlternatives (fuel : Nat) (first : Condition) (tokens : List Lexeme) :
    Objects (readAlternatives fuel first tokens) := by
  cases fuel with
  | zero =>
    rw [readAlternatives]
    · exact .ok _
    · nofun
  | succ fuel =>
    cases tokens with
    | nil => exact .ok _
    | cons l rest =>
      rw [readAlternatives]
      split
      · exact (objects_readConjunction fuel rest).bind fun _ => objects_readAlternatives fuel _ _
      · exact .ok _

theorem objects_readConjunction (fuel : Nat) (tokens : List Lexeme) :
    Objects (readConjunction fuel tokens) := by
  cases fuel with
  | zero => exact objects_unexpected _
  | succ fuel =>
    exact (objects_readPrimary fuel tokens).bind fun _ => objects_readFactors fuel _ _

theorem objects_readFactors (fuel : Nat) (first : Condition) (tokens : List Lexeme) :
    Objects (readFactors fuel first tokens) := by
  cases fuel with
  | zero =>
    rw [readFactors]
    · exact .ok _
    · nofun
  | succ fuel =>
    cases tokens with
    | nil => exact .ok _
    | cons l rest =>
      rw [readFactors]
      split
      · exact (objects_readPrimary fuel rest).bind fun _ => objects_readFactors fuel _ _
      · exact .ok _

theorem objects_readPrimary (fuel : Nat) (tokens : List Lexeme) :
    Objects (readPrimary fuel tokens) := by
  cases fuel with
  | zero => exact objects_unexpected _
  | succ fuel =>
    cases tokens with
    | nil => exact objects_unexpected []
    | cons l rest =>
      rw [readPrimary]
      split
      · exact (objects_refuseQuery rest).bind fun _ => (objects_readCondition fuel rest).bind
          fun _ => (objects_readToken ..).bind fun _ => .ok _
      · exact (objects_readTest _).bind fun _ => .ok _

end

theorem objects_readList {α : Type} {item : List Lexeme → Except SyntaxError (α × List Lexeme)}
    (each : ∀ tokens, Objects (item tokens)) (fuel : Nat) (tokens : List Lexeme) :
    Objects (readList item fuel tokens) := by
  induction fuel generalizing tokens with
  | zero => exact objects_unexpected tokens
  | succ fuel ih =>
    apply (each tokens).bind
    rintro ⟨first, rest⟩
    cases rest with
    | nil => exact .ok _
    | cons l rest =>
      dsimp only
      split
      · exact (ih rest).bind fun _ => .ok _
      · exact .ok _

theorem objects_readItems {α : Type} {item : List Lexeme → Except SyntaxError (α × List Lexeme)}
    (each : ∀ tokens, Objects (item tokens)) (tokens : List Lexeme) :
    Objects (readItems item tokens) :=
  objects_readList each _ tokens

theorem objects_readAssignment (tokens : List Lexeme) : Objects (readAssignment tokens) :=
  (objects_readName tokens).bind fun _ => (objects_readToken ..).bind fun _ =>
    (objects_readOperand _).bind fun _ => .ok _

theorem objects_readFilter (tokens : List Lexeme) : Objects (readFilter tokens) := by
  cases tokens with
  | nil => exact .ok _
  | cons l rest =>
    rw [readFilter]
    split
    · apply (objects_readCondition _ rest).bind
      rintro ⟨c, rest⟩
      dsimp only
      split
      · exact .error rfl
      · exact .ok _
    · exact .ok _

theorem objects_finish (command : Command) (tokens : List Lexeme) :
    Objects (finish command tokens) := by
  match tokens with
  | [] => exact .ok _
  | [l] =>
    rw [finish]
    split
    · exact .ok _
    · exact objects_unexpected _
  | l :: m :: rest =>
    simp only [finish]
    split
    · exact objects_unexpected _
    · exact objects_unexpected _

/-- What a query has behind its columns. -/
def readSource (columns : Option (List ColumnName)) (tokens : List Lexeme) :
    Except SyntaxError Command := do
  let rest ← readKeyword "FROM" tokens
  let (table, rest) ← readName rest
  let (filter, rest) ← readFilter rest
  finish (.select columns table.name filter) rest

theorem objects_readSource (columns : Option (List ColumnName)) (tokens : List Lexeme) :
    Objects (readSource columns tokens) :=
  (objects_readKeyword ..).bind fun rest => (objects_readName rest).bind fun _ =>
    (objects_readFilter _).bind fun _ => objects_finish ..

theorem objects_readSelect (tokens : List Lexeme) : Objects (readSelect tokens) := by
  cases tokens with
  | nil => exact objects_unexpected []
  | cons l rest =>
    unfold readSelect
    dsimp only
    split
    · exact objects_readSource none rest
    · exact (objects_readItems objects_readColumn _).bind fun _ => objects_readSource _ _

theorem objects_readInsert (tokens : List Lexeme) : Objects (readInsert tokens) :=
  (objects_readKeyword ..).bind fun _ => (objects_readName _).bind fun _ =>
    (objects_readToken ..).bind fun _ => (objects_readItems objects_readName _).bind fun _ =>
      (objects_readToken ..).bind fun _ => (objects_readKeyword ..).bind fun _ =>
        (objects_readToken ..).bind fun _ => (objects_readItems objects_readOperand _).bind fun _ =>
          (objects_readToken ..).bind fun _ => objects_finish ..

theorem objects_readUpdate (tokens : List Lexeme) : Objects (readUpdate tokens) :=
  (objects_readName tokens).bind fun _ => (objects_readKeyword ..).bind fun _ =>
    (objects_readItems objects_readAssignment _).bind fun _ =>
      (objects_readFilter _).bind fun _ => objects_finish ..

theorem objects_readDelete (tokens : List Lexeme) : Objects (readDelete tokens) :=
  (objects_readKeyword ..).bind fun _ => (objects_readName _).bind fun _ =>
    (objects_readFilter _).bind fun _ => objects_finish ..

theorem objects_finishTransaction (command : Command) (tokens : List Lexeme) :
    Objects (finishTransaction command tokens) := by
  cases tokens with
  | nil => exact objects_finish command []
  | cons l rest => exact objects_finish ..

theorem objects_readBegin (tokens : List Lexeme) : Objects (readBegin tokens) := by
  cases tokens with
  | nil => exact objects_finishTransaction (.begin .deferred) []
  | cons l rest =>
    rw [readBegin]
    split
    · exact objects_finishTransaction ..
    split
    · exact objects_finishTransaction ..
    split
    · exact objects_finishTransaction ..
    · exact objects_finishTransaction ..

theorem objects_readNumber (tokens : List Lexeme) : Objects (readNumber tokens) := by
  cases tokens with
  | nil => exact objects_unexpected []
  | cons l rest =>
    rw [readNumber]
    split
    · exact .ok _
    · exact objects_unexpected _

theorem objects_readPragma (tokens : List Lexeme) : Objects (readPragma tokens) :=
  (objects_readKeyword ..).bind fun _ => (objects_readToken ..).bind fun _ =>
    (objects_readNumber _).bind fun _ => objects_finish ..

theorem objects_ofTokens (tokens : List Lexeme) : Objects (Command.ofTokens tokens) := by
  unfold Command.ofTokens
  split
  · exact .ok _
  · split
    · exact objects_readSelect _
    split
    · exact objects_readInsert _
    split
    · exact objects_readUpdate _
    split
    · exact objects_readDelete _
    split
    · exact objects_readBegin _
    split
    · exact objects_finishTransaction ..
    split
    · exact objects_finishTransaction ..
    split
    · exact objects_finishTransaction ..
    split
    · exact objects_readPragma _
    · exact objects_unexpected _

theorem objects_read (tokens : List Lexeme) : Objects (Command.read tokens) := by
  apply (objects_ofTokens tokens).bind
  intro command
  split
  · exact .error rfl
  · exact .ok _

end Sql

end RecordStore
