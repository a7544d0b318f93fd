/-!
Dates of the proleptic Gregorian calendar, years -9999 to 9999, with their text
`YYYY-MM-DD` and the reader of that text.
-/
namespace RecordStore

-- Sums of numbers are those of the core library, whatever algebra is imported beside it.
attribute [local instance (high)] Zero.ofOfNat0

namespace Calendar

def isLeap (year : Int) : Bool :=
  year % 4 == 0 && (year % 100 != 0 || year % 400 == 0)

def daysInMonth (year : Int) (month : Nat) : Nat :=
  match month with
  | 2 => if isLeap year then 29 else 28
  | 4 | 6 | 9 | 11 => 30
  | 1 | 3 | 5 | 7 | 8 | 10 | 12 => 31
  | _ => 0

def daysInYear (year : Int) : Nat := if isLeap year then 366 else 365

end Calendar

open Calendar

structure Date where
  year : Int
  month : Nat
  day : Nat
  year_range : -9999 ≤ year ∧ year ≤ 9999
  day_range : 1 ≤ day ∧ day ≤ daysInMonth year month
deriving DecidableEq

namespace Date

def ofCalendar? (year : Int) (month day : Nat) : Option Date :=
  if h : (-9999 ≤ year ∧ year ≤ 9999) ∧ 1 ≤ day ∧ day ≤ daysInMonth year month then
    some ⟨year, month, day, h.1, h.2⟩
  else none

def daysBefore (year : Int) (month : Nat) : Nat :=
  ((List.range' 1 (month - 1)).map (daysInMonth year)).sum

def dayOfYear (d : Date) : Nat := daysBefore d.year d.month + d.day

def ofDayOfYear? (year : Int) (day : Nat) : Option Date :=
  (List.range' 1 12).findSome? fun month =>
    if daysBefore year month < day then ofCalendar? year month (day - daysBefore year month)
    else none

def padded (width n : Nat) : String :=
  let digits := toString n
  String.ofList (List.replicate (width - digits.length) '0') ++ digits

/-- The written form: four digits of the year, behind a minus sign if it is negative. -/
def text (d : Date) : String :=
  (if d.year < 0 then "-" else "") ++ padded 4 d.year.natAbs ++ "-" ++ padded 2 d.month ++ "-"
    ++ padded 2 d.day

inductive ReadError
  | year
  | month
  | day
  | separator
  | trailing
  | outOfRange
deriving DecidableEq

def ReadError.message : ReadError → String
  | .year => "the 'year' component could not be parsed"
  | .month => "the 'month' component could not be parsed"
  | .day => "the 'day' component could not be parsed"
  | .separator => "a character literal was not valid"
  | .trailing => "unexpected trailing characters; the end of input was expected"
  | .outOfRange => "day was not in range"

def readDigits : Nat → Nat → List Char → Option (Nat × List Char)
  | 0, value, rest => some (value, rest)
  | count + 1, value, c :: rest =>
    if c.isDigit then readDigits count (value * 10 + (c.toNat - '0'.toNat)) rest else none
  | _ + 1, _, [] => none

def readYear (cs : List Char) : Option (Int × List Char) :=
  match cs with
  | '-' :: rest => (readDigits 4 0 rest).map fun (n, rest) => (-(n : Int), rest)
  | '+' :: rest => (readDigits 4 0 rest).map fun (n, rest) => ((n : Int), rest)
  | rest => (readDigits 4 0 rest).map fun (n, rest) => ((n : Int), rest)

def readSeparator : List Char → Except ReadError (List Char)
  | '-' :: rest => .ok rest
  | _ => .error .separator

/-- Reads a date: a year of four digits with an optional sign, a month and a day of two
digits each, joined by hyphens. -/
def read (s : String) : Except ReadError Date := do
  let some (year, rest) := readYear s.toList | throw .year
  let rest ← readSeparator rest
  let some (month, rest) := readDigits 2 0 rest | throw .month
  if month = 0 ∨ 12 < month then throw .month
  let rest ← readSeparator rest
  let some (day, rest) := readDigits 2 0 rest | throw .day
  if day = 0 ∨ 31 < day then throw .day
  if !rest.isEmpty then throw .trailing
  let some date := ofCalendar? year month day | throw .outOfRange
  return date

def compare (d e : Date) : Ordering :=
  (Ord.compare d.year e.year).then ((Ord.compare d.month e.month).then (Ord.compare d.day e.day))

/-- The date of entries whose date does not matter. -/
def newYear2024 : Date := ⟨2024, 1, 1, by decide, by decide⟩

end Date

end RecordStore
