import RecordStore.Text.Unprintable

/-!
Text between double quotes, as diagnostics show it. A quote and a backslash are escaped,
and a character that could not be seen is written by its number.
-/
namespace RecordStore.Quoted

def escapeByNumber (c : Char) : List Char :=
  ['\\', 'u', '\x7b'] ++ Nat.toDigits 16 c.toNat ++ ['\x7d']

def escapeChar (c : Char) : List Char :=
  match c with
  | '"' => ['\\', '"']
  | '\\' => ['\\', '\\']
  | '\n' => ['\\', 'n']
  | '\r' => ['\\', 'r']
  | '\t' => ['\\', 't']
  | '\x00' => ['\\', '0']
  | c => if isUnprintable c then escapeByNumber c else [c]

end RecordStore.Quoted

namespace RecordStore

def quoted (s : String) : String :=
  String.ofList ('"' :: s.toList.flatMap Quoted.escapeChar ++ ['"'])

end RecordStore
