import RecordStore.Proofs.Calendar

/-!
Dates as a year with a day of that year. The day of the year of every date leads back to the
date, in leap years and in years before the year 0 as well.
-/
namespace RecordStore.Date

-- Sums of numbers are those of the core library, whatever algebra is imported beside it.
attribute [local instance (high)] Zero.ofOfNat0

open Calendar

theorem daysBefore_next (year : Int) {month : Nat} (from_one : 1 ≤ month) :
    daysBefore year (month + 1) = daysBefore year month + daysInMonth year month := by
  obtain ⟨earlier, rfl⟩ := Nat.exists_eq_add_of_le from_one
  have months : List.range' 1 (1 + earlier) = List.range' 1 earlier ++ [1 + earlier] := by
    rw [Nat.add_comm 1 earlier, List.range'_concat, Nat.mul_comm, Nat.mul_one, Nat.add_comm]
  simp only [daysBefore, Nat.add_sub_cancel, Nat.add_sub_cancel_left, months, List.map_append,
    List.map_singleton, List.sum_append, List.sum_singleton]

/-- The days of a month are over when a later month begins. -/
theorem daysBefore_later (year : Int) {month later : Nat} (from_one : 1 ≤ month)
    (after : month < later) :
    daysBefore year month + daysInMonth year month ≤ daysBefore year later := by
  induction after with
  | refl => exact Nat.le_of_eq (daysBefore_next year from_one).symm
  | step after ih =>
    rw [daysBefore_next year (Nat.le_trans from_one (Nat.le_of_succ_le after))]
    exact Nat.le_trans ih (Nat.le_add_right ..)

theorem daysBefore_thirteen (year : Int) : daysBefore year 13 = daysInYear year := by
  by_cases leap : isLeap year <;> simp [daysBefore, daysInYear, daysInMonth, leap, List.range']

theorem dayOfYear_le (d : Date) : d.dayOfYear ≤ daysInYear d.year := by
  have month := d.month_range
  have day := d.day_range
  have whole := daysBefore_later d.year month.1 (show d.month < 13 by omega)
  rw [daysBefore_thirteen] at whole
  rw [dayOfYear]
  omega

theorem daysInYear_le (year : Int) : daysInYear year ≤ 366 := by
  unfold daysInYear
  split <;> decide

theorem ofCalendar?_beyond {year : Int} {month day : Nat} (beyond : daysInMonth year month < day) :
    ofCalendar? year month day = none := by
  rw [ofCalendar?, dif_neg]
  omega

/-- The search goes on past every month that ends before the day. -/
theorem ofDayOfYear?_dayOfYear (d : Date) : ofDayOfYear? d.year d.dayOfYear = some d := by
  obtain ⟨low, high⟩ := d.month_range
  have day := d.day_range
  have months : ∀ month ≤ 12, 1 ≤ month → List.range' 1 12
      = List.range' 1 (month - 1) ++ month :: List.range' (month + 1) (12 - month) := by
    decide
  rw [ofDayOfYear?, List.findSome?_eq_some_iff]
  refine ⟨_, d.month, _, months d.month high low, ?_, ?_⟩
  · have before : daysBefore d.year d.month < d.dayOfYear := by
      rw [dayOfYear]
      omega
    rw [if_pos before, dayOfYear, Nat.add_sub_cancel_left, ofCalendar?_date]
  · intro month earlier
    rw [List.mem_range'_1] at earlier
    have ended := daysBefore_later d.year earlier.1 (show month < d.month by omega)
    have beyond : daysInMonth d.year month < d.dayOfYear - daysBefore d.year month := by
      rw [dayOfYear]
      omega
    rw [ofCalendar?_beyond beyond, ite_self]

end RecordStore.Date
