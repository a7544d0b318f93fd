import RecordStore.Value
import RecordStore.Schema

/-!
Tokens of SQL text. The text ends at a NUL; quoted text that has not ended there is no
token. Placeholders are numbered from the left: a name keeps the number of its first use.
-/
namespace RecordStore.Sql

-- Sums of numbers are those of the core library, whatever algebra is imported beside it.
attribute [local instance (high)] Zero.ofOfNat0

inductive Marker
  | anonymous
  | named (name : String)
deriving DecidableEq

inductive Token
  | word (name : String)
  | number (digits : String)
  | text (content : String)
  | placeholder (marker : Marker) (place : Nat)
  | compare (op : CompareOp)
  | star
  | comma
  | semicolon
  | openParen
  | closeParen
  | other (c : Char)
  | unterminated
deriving DecidableEq

structure Lexeme where
  token : Token
  spelling : List Char
  offset : Nat
deriving DecidableEq

def isBlank (c : Char) : Bool :=
  c == ' ' || c == '\t' || c == '\n' || c == '\r' || c == '\x0c'

/-- Characters of words: ASCII letters and digits, underscore, dollar and all beyond ASCII. -/
def isWordChar (c : Char) : Bool := c.isAlphanum || c == '_' || c == '$' || 128 ≤ c.toNat

def isWordStart (c : Char) : Bool := isWordChar c && !c.isDigit && c != '$'

/-- The content of quoted text behind its opening quote, and the text after it. A doubled
quote stands for one. -/
def readQuoted : List Char → Option (List Char × List Char)
  | [] => none
  | '\'' :: '\'' :: rest => (readQuoted rest).map fun (content, rest) => ('\'' :: content, rest)
  | '\'' :: rest => some ([], rest)
  | c :: rest => (readQuoted rest).map fun (content, rest) => (c :: content, rest)

def firstToken (c : Char) (rest : List Char) : Token × List Char :=
  match c, rest with
  | '\'', rest =>
    match readQuoted rest with
    | some (content, rest) => (.text (String.ofList content), rest)
    | none => (.unterminated, [])
  | '<', '>' :: rest => (.compare .ne, rest)
  | '<', rest => (.compare .lt, rest)
  | '>', rest => (.compare .gt, rest)
  | '=', rest => (.compare .eq, rest)
  | '*', rest => (.star, rest)
  | ',', rest => (.comma, rest)
  | ';', rest => (.semicolon, rest)
  | '(', rest => (.openParen, rest)
  | ')', rest => (.closeParen, rest)
  | '?', rest => (.placeholder .anonymous 0, rest)
  | '@', rest =>
    let name := rest.takeWhile isWordChar
    if name.isEmpty then (.other '@', rest)
    else (.placeholder (.named (String.ofList name)) 0, rest.dropWhile isWordChar)
  | c, rest =>
    if isWordStart c then
      (.word (String.ofList (c :: rest.takeWhile isWordChar)), rest.dropWhile isWordChar)
    else if c.isDigit then
      (.number (String.ofList (c :: rest.takeWhile Char.isDigit)), rest.dropWhile Char.isDigit)
    else (.other c, rest)

def byteCount (cs : List Char) : Nat := (cs.map Char.utf8Size).sum

/-- Each step takes at least one character, so the length of the text is fuel enough. -/
def scanFrom : Nat → Nat → List Char → List Lexeme
  | _, _, [] => []
  | 0, _, _ :: _ => []
  | fuel + 1, offset, c :: rest =>
    if isBlank c then scanFrom fuel (offset + c.utf8Size) rest
    else
      let (token, after) := firstToken c rest
      let spelling := (c :: rest).take (rest.length + 1 - after.length)
      ⟨token, spelling, offset⟩ :: scanFrom fuel (offset + byteCount spelling) after

/-- The text up to its first NUL. -/
def effective (sql : String) : List Char := sql.toList.takeWhile (· != '\x00')

def addMarker (seen : List Marker) (m : Marker) : List Marker :=
  match m with
  | .anonymous => seen ++ [m]
  | .named _ => if m ∈ seen then seen else seen ++ [m]

def placeOf (seen : List Marker) (m : Marker) : Nat :=
  match m with
  | .anonymous => seen.length
  | .named _ => seen.findIdx (· == m)

def numberFrom (seen : List Marker) : List Lexeme → List Lexeme
  | [] => []
  | l :: rest =>
    match l.token with
    | .placeholder m _ =>
      { l with token := .placeholder m (placeOf seen m) } :: numberFrom (addMarker seen m) rest
    | _ => l :: numberFrom seen rest

def scan (sql : String) : List Lexeme :=
  numberFrom [] (scanFrom (effective sql).length 0 (effective sql))

def Lexeme.marker? (l : Lexeme) : Option Marker :=
  match l.token with
  | .placeholder m _ => some m
  | _ => none

def Lexeme.place? (l : Lexeme) : Option Nat :=
  match l.token with
  | .placeholder _ place => some place
  | _ => none

/-- The parameters that a text asks for, each under the marker of its first use. -/
def parameterMarkers (tokens : List Lexeme) : List Marker :=
  (tokens.filterMap Lexeme.marker?).foldl addMarker []

end RecordStore.Sql
