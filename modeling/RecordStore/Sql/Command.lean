import RecordStore.Sql.Token
import RecordStore.Store.Failure

/-!
The statements of the store and the reader that builds them from tokens. In a condition
OR binds loosest, AND tighter, and parentheses tightest. Whatever else SQL knows is called a
syntax error here.
-/
namespace RecordStore.Sql

structure ColumnName where
  name : String
  offset : Nat
deriving DecidableEq

inductive Operand
  | parameter (place : Nat)
  | text (content : String)
deriving DecidableEq

inductive Test
  | compare (column : ColumnName) (op : CompareOp) (value : Operand)
  | isNull (column : ColumnName)
  | isNotNull (column : ColumnName)
deriving DecidableEq

def Test.column : Test → ColumnName
  | .compare c _ _ | .isNull c | .isNotNull c => c

inductive Condition
  | test (t : Test)
  | and (left right : Condition)
  | or (left right : Condition)
deriving DecidableEq

/-- The height of the tree, where a test is two levels: a column below its operator. -/
def Condition.height : Condition → Nat
  | .test _ => 2
  | .and l r | .or l r => max l.height r.height + 1

def maxHeight : Nat := 1000

def maxParameters : Nat := 32766

inductive TransactionMode
  | deferred
  | immediate
  | exclusive
deriving DecidableEq

inductive Command
  | select (columns : Option (List ColumnName)) (table : String) (filter : Option Condition)
  | insert (table : String) (columns : List ColumnName) (values : List Operand)
  | update (table : String) (assignments : List (ColumnName × Operand))
      (filter : Option Condition)
  | delete (table : String) (filter : Option Condition)
  | begin (mode : TransactionMode)
  | commit
  | rollback
  /-- From now on the database of the connection may have so many pages. -/
  | limitPages (pages : Nat)
  | nothing
deriving DecidableEq

/-- The first token that fits no statement, or the end of the text. -/
structure SyntaxError where
  cause : Failure
  offset : Option Nat
deriving DecidableEq

def unexpected : List Lexeme → SyntaxError
  | [] => ⟨.incompleteInput, none⟩
  | l :: _ =>
    let spelling := String.ofList l.spelling
    match l.token with
    | .unterminated => ⟨.unrecognizedToken spelling, some l.offset⟩
    | _ => ⟨.nearToken spelling, some l.offset⟩

/-- Words that are no names. -/
def keywords : List String :=
  ["ADD", "ALL", "ALTER", "AND", "AS", "AUTOINCREMENT", "BETWEEN", "CASE", "CHECK",
   "COLLATE", "COMMIT", "CONSTRAINT", "CREATE", "DEFAULT", "DEFERRABLE", "DELETE",
   "DISTINCT", "DROP", "ELSE", "ESCAPE", "EXCEPT", "EXISTS", "FOREIGN", "FROM", "GROUP",
   "HAVING", "IN", "INDEX", "INSERT", "INTERSECT", "INTO", "IS", "ISNULL", "JOIN", "LIMIT",
   "NOT", "NOTHING", "NOTNULL", "NULL", "ON", "OR", "ORDER", "PRIMARY", "REFERENCES",
   "RETURNING", "SELECT", "SET", "TABLE", "THEN", "TO", "TRANSACTION", "UNION", "UNIQUE",
   "UPDATE", "USING", "VALUES", "WHEN", "WHERE"]

def isKeyword (name : String) : Bool := keywords.any (Schema.sameName name)

/-- Words that are names in other places, but begin a term where a column could stand. -/
def termWords : List String := ["CAST", "RAISE"]

/-- Words that stand for the time of the day where a column could stand. -/
def clockWords : List String := ["CURRENT_DATE", "CURRENT_TIME", "CURRENT_TIMESTAMP"]

/-- Whether some statement takes the name of a column for something else. Behind a parenthesis
the word WITH begins a query. -/
def isReserved (name : String) : Bool :=
  isKeyword name || (termWords ++ clockWords ++ ["WITH"]).any (Schema.sameName name)

def Lexeme.isKeyword (keyword : String) (l : Lexeme) : Bool :=
  match l.token with
  | .word name => Schema.sameName name keyword
  | _ => false

def readKeyword (keyword : String) : List Lexeme → Except SyntaxError (List Lexeme)
  | [] => .error (unexpected [])
  | l :: rest => if l.isKeyword keyword then .ok rest else .error (unexpected (l :: rest))

def readToken (token : Token) : List Lexeme → Except SyntaxError (List Lexeme)
  | [] => .error (unexpected [])
  | l :: rest => if l.token = token then .ok rest else .error (unexpected (l :: rest))

def readName : List Lexeme → Except SyntaxError (ColumnName × List Lexeme)
  | [] => .error (unexpected [])
  | l :: rest =>
    match l.token with
    | .word name =>
      if isKeyword name then .error (unexpected (l :: rest)) else .ok (⟨name, l.offset⟩, rest)
    | _ => .error (unexpected (l :: rest))

/-- A column in a condition or behind SELECT. Terms of other kinds are not read. -/
def readColumn (tokens : List Lexeme) : Except SyntaxError (ColumnName × List Lexeme) := do
  let (column, rest) ← readName tokens
  if termWords.any (Schema.sameName column.name) then .error (unexpected rest)
  else if clockWords.any (Schema.sameName column.name) then
    .error ⟨.clockWord column.name, none⟩
  else .ok (column, rest)

def readOperand : List Lexeme → Except SyntaxError (Operand × List Lexeme)
  | [] => .error (unexpected [])
  | l :: rest =>
    match l.token with
    | .placeholder _ place => .ok (.parameter place, rest)
    | .text content => .ok (.text content, rest)
    | _ => .error (unexpected (l :: rest))

def readNullTest (column : ColumnName) (tokens : List Lexeme) :
    Except SyntaxError (Test × List Lexeme) :=
  match tokens with
  | [] => .error (unexpected [])
  | l :: rest =>
    if l.isKeyword "NOT" then do
      let rest ← readKeyword "NULL" rest
      return (.isNotNull column, rest)
    else do
      let rest ← readKeyword "NULL" (l :: rest)
      return (.isNull column, rest)

def readTest (tokens : List Lexeme) : Except SyntaxError (Test × List Lexeme) := do
  let (column, rest) ← readColumn tokens
  match rest with
  | [] => throw (unexpected [])
  | l :: rest =>
    match l.token with
    | .compare op =>
      let (value, rest) ← readOperand rest
      return (.compare column op value, rest)
    | _ =>
      if l.isKeyword "IS" then readNullTest column rest else throw (unexpected (l :: rest))

/-- A query does not stand in parentheses. -/
def refuseQuery : List Lexeme → Except SyntaxError Unit
  | [] => .ok ()
  | l :: rest => if l.isKeyword "WITH" then .error (unexpected rest) else .ok ()

mutual

def readCondition : Nat → List Lexeme → Except SyntaxError (Condition × List Lexeme)
  | 0, tokens => .error (unexpected tokens)
  | fuel + 1, tokens => do
    let (first, rest) ← readConjunction fuel tokens
    readAlternatives fuel first rest

def readAlternatives :
    Nat → Condition → List Lexeme → Except SyntaxError (Condition × List Lexeme)
  | fuel + 1, first, l :: rest =>
    if l.isKeyword "OR" then do
      let (next, rest) ← readConjunction fuel rest
      readAlternatives fuel (.or first next) rest
    else .ok (first, l :: rest)
  | _, first, tokens => .ok (first, tokens)

def readConjunction : Nat → List Lexeme → Except SyntaxError (Condition × List Lexeme)
  | 0, tokens => .error (unexpected tokens)
  | fuel + 1, tokens => do
    let (first, rest) ← readPrimary fuel tokens
    readFactors fuel first rest

def readFactors :
    Nat → Condition → List Lexeme → Except SyntaxError (Condition × List Lexeme)
  | fuel + 1, first, l :: rest =>
    if l.isKeyword "AND" then do
      let (next, rest) ← readPrimary fuel rest
      readFactors fuel (.and first next) rest
    else .ok (first, l :: rest)
  | _, first, tokens => .ok (first, tokens)

def readPrimary : Nat → List Lexeme → Except SyntaxError (Condition × List Lexeme)
  | fuel + 1, l :: rest =>
    if l.token = .openParen then do
      refuseQuery rest
      let (inner, rest) ← readCondition fuel rest
      let rest ← readToken .closeParen rest
      return (inner, rest)
    else do
      let (t, rest) ← readTest (l :: rest)
      return (.test t, rest)
  | _, tokens => .error (unexpected tokens)

end

/-- Every level of the grammar spends one unit of fuel, and each round of the three levels
takes a token. -/
def conditionFuel (tokens : List Lexeme) : Nat := 4 * tokens.length + 4

def Condition.read (tokens : List Lexeme) : Except SyntaxError (Condition × List Lexeme) :=
  readCondition (conditionFuel tokens) tokens

/-- Items separated by commas; the fuel bounds their number. -/
def readList {α : Type} (item : List Lexeme → Except SyntaxError (α × List Lexeme)) :
    Nat → List Lexeme → Except SyntaxError (List α × List Lexeme)
  | 0, tokens => .error (unexpected tokens)
  | fuel + 1, tokens => do
    let (first, rest) ← item tokens
    match rest with
    | l :: rest =>
      if l.token = .comma then
        let (others, rest) ← readList item fuel rest
        return (first :: others, rest)
      else return ([first], l :: rest)
    | [] => return ([first], [])

def readItems {α : Type} (item : List Lexeme → Except SyntaxError (α × List Lexeme))
    (tokens : List Lexeme) : Except SyntaxError (List α × List Lexeme) :=
  readList item (tokens.length + 1) tokens

def readAssignment (tokens : List Lexeme) :
    Except SyntaxError ((ColumnName × Operand) × List Lexeme) := do
  let (column, rest) ← readName tokens
  let rest ← readToken (.compare .eq) rest
  let (value, rest) ← readOperand rest
  return ((column, value), rest)

def readFilter : List Lexeme → Except SyntaxError (Option Condition × List Lexeme)
  | [] => .ok (none, [])
  | l :: rest =>
    if l.isKeyword "WHERE" then do
      let (c, rest) ← Condition.read rest
      if maxHeight < c.height then throw ⟨.conditionTooHigh, none⟩
      return (some c, rest)
    else .ok (none, l :: rest)

def finish (c : Command) : List Lexeme → Except SyntaxError Command
  | [] => .ok c
  | [l] => if l.token = .semicolon then .ok c else .error (unexpected [l])
  | l :: rest =>
    if l.token = .semicolon then .error (unexpected rest) else .error (unexpected (l :: rest))

def readSelect (tokens : List Lexeme) : Except SyntaxError Command := do
  let (columns, rest) ← match tokens with
    | l :: rest =>
      if l.token = .star then pure (none, rest)
      else do
        let (names, rest) ← readItems readColumn (l :: rest)
        pure (some names, rest)
    | [] => throw (unexpected [])
  let rest ← readKeyword "FROM" rest
  let (table, rest) ← readName rest
  let (filter, rest) ← readFilter rest
  finish (.select columns table.name filter) rest

def readInsert (tokens : List Lexeme) : Except SyntaxError Command := do
  let rest ← readKeyword "INTO" tokens
  let (table, rest) ← readName rest
  let rest ← readToken .openParen rest
  let (columns, rest) ← readItems readName rest
  let rest ← readToken .closeParen rest
  let rest ← readKeyword "VALUES" rest
  let rest ← readToken .openParen rest
  let (values, rest) ← readItems readOperand rest
  let rest ← readToken .closeParen rest
  finish (.insert table.name columns values) rest

def readUpdate (tokens : List Lexeme) : Except SyntaxError Command := do
  let (table, rest) ← readName tokens
  let rest ← readKeyword "SET" rest
  let (assignments, rest) ← readItems readAssignment rest
  let (filter, rest) ← readFilter rest
  finish (.update table.name assignments filter) rest

def readDelete (tokens : List Lexeme) : Except SyntaxError Command := do
  let rest ← readKeyword "FROM" tokens
  let (table, rest) ← readName rest
  let (filter, rest) ← readFilter rest
  finish (.delete table.name filter) rest

def Lexeme.isName (l : Lexeme) : Bool :=
  match l.token with
  | .word name => !Sql.isKeyword name
  | .text _ => true
  | _ => false

def skipName : List Lexeme → List Lexeme
  | [] => []
  | l :: rest => if l.isName then rest else l :: rest

/-- The rest of a statement that begins or ends a transaction: at most the word TRANSACTION and
a name, which means nothing. -/
def finishTransaction (c : Command) : List Lexeme → Except SyntaxError Command
  | [] => finish c []
  | l :: rest => finish c (if l.isKeyword "TRANSACTION" then skipName rest else l :: rest)

def readBegin (tokens : List Lexeme) : Except SyntaxError Command :=
  match tokens with
  | [] => finishTransaction (.begin .deferred) []
  | l :: rest =>
    if l.isKeyword "DEFERRED" then finishTransaction (.begin .deferred) rest
    else if l.isKeyword "IMMEDIATE" then finishTransaction (.begin .immediate) rest
    else if l.isKeyword "EXCLUSIVE" then finishTransaction (.begin .exclusive) rest
    else finishTransaction (.begin .deferred) (l :: rest)

def readNumber : List Lexeme → Except SyntaxError (Nat × List Lexeme)
  | [] => .error (unexpected [])
  | l :: rest =>
    match l.token with
    | .number digits => .ok (Nat.ofDigitChars 10 digits.toList 0, rest)
    | _ => .error (unexpected (l :: rest))

/-- Of all pragmas there is the one that limits the pages of the database. -/
def readPragma (tokens : List Lexeme) : Except SyntaxError Command := do
  let rest ← readKeyword "MAX_PAGE_COUNT" tokens
  let rest ← readToken (.compare .eq) rest
  let (pages, rest) ← readNumber rest
  finish (.limitPages pages) rest

def excessPlaceholder? (tokens : List Lexeme) : Option Lexeme :=
  tokens.find? fun l => l.place?.any (maxParameters ≤ ·)

def Command.ofTokens (tokens : List Lexeme) : Except SyntaxError Command :=
  match tokens with
  | [] => .ok .nothing
  | l :: rest =>
    if l.isKeyword "SELECT" then readSelect rest
    else if l.isKeyword "INSERT" then readInsert rest
    else if l.isKeyword "UPDATE" then readUpdate rest
    else if l.isKeyword "DELETE" then readDelete rest
    else if l.isKeyword "BEGIN" then readBegin rest
    else if l.isKeyword "COMMIT" then finishTransaction .commit rest
    else if l.isKeyword "ROLLBACK" then finishTransaction .rollback rest
    else if l.isKeyword "END" then finishTransaction .commit rest
    else if l.isKeyword "PRAGMA" then readPragma rest
    else .error (unexpected (l :: rest))

def Command.read (tokens : List Lexeme) : Except SyntaxError Command := do
  let command ← Command.ofTokens tokens
  match excessPlaceholder? tokens with
  | some l => throw ⟨.tooManyParameters, some l.offset⟩
  | none => return command

end RecordStore.Sql
