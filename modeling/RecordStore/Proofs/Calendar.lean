import RecordStore.Calendar
import RecordStore.Proofs.Number.Digits
import RecordStore.Proofs.Outcome

/-!
Dates as text. The text of every date reads back as the date.
-/
namespace RecordStore.Date

-- Powers of numbers are those of the core library, whatever algebra is imported beside it.
attribute [local instance (high)] instPowNat instNatPowNat

theorem toList_padded (width n : Nat) :
    (padded width n).toList
      = List.replicate (width - (Nat.toDigits 10 n).length) '0' ++ Nat.toDigits 10 n := by
  have digits : (toString n).toList = Nat.toDigits 10 n := by
    rw [Nat.toString_eq_repr, Nat.toList_repr]
  rw [padded, String.toList_append, String.toList_ofList, digits, ← String.length_toList, digits]

theorem isDigit_of_mem_padded {width n : Nat} {c : Char} (mem : c ∈ (padded width n).toList) :
    c.isDigit = true := by
  rw [toList_padded] at mem
  rcases List.mem_append.mp mem with zero | digit
  · cases List.eq_of_mem_replicate zero
    decide
  · exact isDigit_of_mem_toDigits digit

theorem readDigits_append {digits : List Char} (all : ∀ c ∈ digits, c.isDigit = true)
    (value : Nat) (rest : List Char) :
    readDigits digits.length value (digits ++ rest)
      = some (Nat.ofDigitChars 10 digits value, rest) := by
  induction digits generalizing value with
  | nil => simp [readDigits]
  | cons c digits ih =>
    have first := all c (List.mem_cons_self ..)
    have others := ih (fun d mem => all d (List.mem_cons_of_mem _ mem))
      (value * 10 + (c.toNat - '0'.toNat))
    rw [List.length_cons, List.cons_append, readDigits, if_pos first, others,
      Nat.ofDigitChars_cons, Nat.mul_comm value 10]

theorem length_padded {width n : Nat} (wide : 0 < width) (fits : n < 10 ^ width) :
    (padded width n).toList.length = width := by
  have size : (Nat.toDigits 10 n).length ≤ width :=
    (Nat.length_toDigits_le_iff (by decide) wide).mpr fits
  rw [toList_padded, List.length_append, List.length_replicate]
  omega

theorem ofDigitChars_padded (width n : Nat) :
    Nat.ofDigitChars 10 (padded width n).toList 0 = n := by
  rw [toList_padded, Nat.ofDigitChars_append, Nat.ofDigitChars_replicate_zero, Nat.mul_zero,
    Nat.ofDigitChars_ten_toDigits]

theorem readDigits_padded {width n : Nat} (wide : 0 < width) (fits : n < 10 ^ width)
    (rest : List Char) : readDigits width 0 ((padded width n).toList ++ rest) = some (n, rest) := by
  have read := readDigits_append (fun c (mem : c ∈ (padded width n).toList) =>
    isDigit_of_mem_padded mem) 0 rest
  rwa [length_padded wide fits, ofDigitChars_padded] at read

theorem month_range (d : Date) : 1 ≤ d.month ∧ d.month ≤ 12 := by
  have some_day : 1 ≤ Calendar.daysInMonth d.year d.month :=
    Nat.le_trans d.day_range.1 d.day_range.2
  unfold Calendar.daysInMonth at some_day
  split at some_day <;> simp_all

theorem day_le (d : Date) : d.day ≤ 31 := by
  refine Nat.le_trans d.day_range.2 ?_
  unfold Calendar.daysInMonth
  split
  · split <;> decide
  all_goals decide

theorem toList_text (d : Date) :
    d.text.toList = (if d.year < 0 then ['-'] else []) ++ ((padded 4 d.year.natAbs).toList ++
      '-' :: ((padded 2 d.month).toList ++ '-' :: (padded 2 d.day).toList)) := by
  by_cases negative : d.year < 0 <;> simp [text, negative]

theorem readYear_append (year : Int) (range : -9999 ≤ year ∧ year ≤ 9999) (rest : List Char) :
    readYear ((if year < 0 then ['-'] else []) ++ ((padded 4 year.natAbs).toList ++ rest))
      = some (year, rest) := by
  have digits : readDigits 4 0 ((padded 4 year.natAbs).toList ++ rest) = some (year.natAbs, rest) :=
    readDigits_padded (by decide) (by omega) rest
  by_cases negative : year < 0
  · have value : -(year.natAbs : Int) = year := by omega
    simp only [negative, if_true, List.cons_append, List.nil_append, readYear, digits,
      Option.map_some, value]
  · have value : (year.natAbs : Int) = year := by omega
    obtain ⟨c, cs, shape⟩ : ∃ c cs, (padded 4 year.natAbs).toList = c :: cs := by
      refine List.exists_cons_of_ne_nil fun empty => ?_
      rw [toList_padded] at empty
      exact Nat.toDigits_ne_nil (List.append_eq_nil_iff.mp empty).2
    have first : c.isDigit = true := isDigit_of_mem_padded (shape ▸ List.mem_cons_self ..)
    have minus : c ≠ '-' := by
      rintro rfl
      revert first
      decide
    have plus : c ≠ '+' := by
      rintro rfl
      revert first
      decide
    simp only [negative, if_false, List.nil_append]
    rw [shape] at digits ⊢
    rw [List.cons_append, readYear.eq_3 _ (by simp [minus]) (by simp [plus]), ← List.cons_append,
      digits, Option.map_some]
    simp only [value]

theorem readSeparator_hyphen (rest : List Char) : readSeparator ('-' :: rest) = .ok rest := rfl

theorem ofCalendar?_date (d : Date) : ofCalendar? d.year d.month d.day = some d := by
  rw [ofCalendar?, dif_pos ⟨d.year_range, d.day_range⟩]

/-- Dates survive being written. -/
theorem read_text (d : Date) : read d.text = .ok d := by
  have month := d.month_range
  have day := d.day_le
  have two : 0 < 2 := by decide
  have month_digits := readDigits_padded two (show d.month < 10 ^ 2 by omega)
  have day_digits := readDigits_padded two (show d.day < 10 ^ 2 by omega) []
  rw [List.append_nil] at day_digits
  have month_ok : ¬(d.month = 0 ∨ 12 < d.month) := by omega
  have day_ok : ¬(d.day = 0 ∨ 31 < d.day) := by
    have := d.day_range.1
    omega
  simp only [read, toList_text, readYear_append d.year d.year_range, readSeparator_hyphen, ok_bind,
    month_digits, month_ok, if_false, day_digits, day_ok, ofCalendar?_date, List.isEmpty_nil,
    Bool.not_true, Bool.false_eq_true]
  rfl

theorem isNumberChar_text (d : Date) : ∀ c ∈ d.text.toList, isNumberChar c = true := by
  intro c mem
  have hyphen : isNumberChar '-' = true := by decide
  have digits {width n : Nat} (h : c ∈ (padded width n).toList) : isNumberChar c = true :=
    isNumberChar_of_isDigit (isDigit_of_mem_padded h)
  rw [toList_text] at mem
  rcases List.mem_append.mp mem with sign | mem
  · split at sign
    · cases List.mem_singleton.mp sign
      exact hyphen
    · cases sign
  rcases List.mem_append.mp mem with year | mem
  · exact digits year
  rcases List.mem_cons.mp mem with rfl | mem
  · exact hyphen
  rcases List.mem_append.mp mem with month | mem
  · exact digits month
  rcases List.mem_cons.mp mem with rfl | day
  · exact hyphen
  · exact digits day

end RecordStore.Date
