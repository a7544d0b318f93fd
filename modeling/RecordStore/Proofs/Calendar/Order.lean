import RecordStore.Proofs.Calendar
import RecordStore.Value

/-!
The order of dates and the order of their texts. They agree, except that of two years before
the year 0 the later one is written with the smaller number.
-/
namespace RecordStore

-- Powers of numbers are those of the core library, whatever algebra is imported beside it.
attribute [local instance (high)] instPowNat instNatPowNat

/-! ## Text, character by character -/

theorem compareText_eq (s t : String) :
    compareText s t = compareOfLessAndEq s.toList t.toList := by
  have less : s < t ↔ s.toList < t.toList := Iff.rfl
  simp only [compareText, compareOfLessAndEq, less, String.toList_inj]

theorem compareOfLessAndEq_cons (c d : Char) (cs ds : List Char) :
    compareOfLessAndEq (c :: cs) (d :: ds)
      = (compare c.toNat d.toNat).then (compareOfLessAndEq cs ds) := by
  have order : (c < d ↔ c.toNat < d.toNat) ∧ (c = d ↔ c.toNat = d.toNat) :=
    ⟨Iff.rfl, Char.toNat_inj.symm⟩
  simp only [compareOfLessAndEq, List.cons_lt_cons_iff, order, Nat.compare_eq_ite_lt,
    List.cons.injEq]
  rcases Nat.lt_trichotomy c.toNat d.toNat with less | same | more
  · simp [less]
  · simp [same]
  · simp [more, Nat.lt_asymm more, Nat.ne_of_gt more]

theorem compareOfLessAndEq_append {as bs : List Char} (size : as.length = bs.length)
    (cs ds : List Char) :
    compareOfLessAndEq (as ++ cs) (bs ++ ds)
      = (compareOfLessAndEq as bs).then (compareOfLessAndEq cs ds) := by
  induction as generalizing bs with
  | nil =>
    cases List.length_eq_zero_iff.mp size.symm
    rfl
  | cons a as ih =>
    obtain ⟨b, bs, rfl⟩ := List.exists_cons_of_length_eq_add_one size.symm
    rw [List.length_cons, List.length_cons] at size
    rw [List.cons_append, List.cons_append, compareOfLessAndEq_cons, compareOfLessAndEq_cons,
      ih (Nat.succ.inj size), Ordering.then_assoc]

/-! ## Digits -/

/-- A further digit decides only between numbers that are equal so far. -/
theorem compare_further_digit {m n a b : Nat} (first : a < 10) (second : b < 10) :
    compare (10 * m + a) (10 * n + b) = (compare m n).then (compare a b) := by
  simp only [Nat.compare_eq_ite_lt]
  rcases Nat.lt_trichotomy m n with less | same | more
  · simp [less, show 10 * m + a < 10 * n + b by omega]
  · simp [same]
  · simp [more, Nat.lt_asymm more, show ¬10 * m + a < 10 * n + b by omega,
      show 10 * n + b < 10 * m + a by omega]

theorem isDigit_iff_range {c : Char} : c.isDigit = true ↔ 48 ≤ c.toNat ∧ c.toNat ≤ 57 := by
  simp only [Char.isDigit, Bool.and_eq_true, decide_eq_true_eq, UInt32.le_iff_toNat_le]
  rfl

theorem compare_digitValue {c d : Char} (first : c.isDigit = true) (second : d.isDigit = true) :
    compare (c.toNat - '0'.toNat) (d.toNat - '0'.toNat) = compare c.toNat d.toNat := by
  obtain ⟨c_low, _⟩ := isDigit_iff_range.mp first
  obtain ⟨d_low, _⟩ := isDigit_iff_range.mp second
  have zero : '0'.toNat = 48 := rfl
  have order : c.toNat - 48 < d.toNat - 48 ↔ c.toNat < d.toNat := by omega
  have order' : d.toNat - 48 < c.toNat - 48 ↔ d.toNat < c.toNat := by omega
  simp only [Nat.compare_eq_ite_lt, zero, order, order']

/-- As many digits of the one number as of the other are in the order of the numbers. -/
theorem compare_ofDigitChars {cs ds : List Char} (size : cs.length = ds.length)
    (first : ∀ c ∈ cs, c.isDigit = true) (second : ∀ d ∈ ds, d.isDigit = true) (m n : Nat) :
    compare (Nat.ofDigitChars 10 cs m) (Nat.ofDigitChars 10 ds n)
      = (compare m n).then (compareOfLessAndEq cs ds) := by
  induction cs generalizing ds m n with
  | nil =>
    cases List.length_eq_zero_iff.mp size.symm
    exact Ordering.then_eq.symm
  | cons c cs ih =>
    obtain ⟨d, ds, rfl⟩ := List.exists_cons_of_length_eq_add_one size.symm
    rw [List.length_cons, List.length_cons] at size
    obtain ⟨c_digit, cs_digits⟩ := List.forall_mem_cons.mp first
    obtain ⟨d_digit, ds_digits⟩ := List.forall_mem_cons.mp second
    have value_lt {c : Char} (digit : c.isDigit = true) : c.toNat - '0'.toNat < 10 := by
      have := (isDigit_iff_range.mp digit).2
      have zero : '0'.toNat = 48 := rfl
      omega
    rw [Nat.ofDigitChars_cons, Nat.ofDigitChars_cons, ih (Nat.succ.inj size) cs_digits ds_digits,
      compare_further_digit (value_lt c_digit) (value_lt d_digit),
      compare_digitValue c_digit d_digit, compareOfLessAndEq_cons, Ordering.then_assoc]

namespace Date

/-- Padded numbers with something behind them: first the numbers decide. -/
theorem compare_padded {width m n : Nat} (wide : 0 < width) (first : m < 10 ^ width)
    (second : n < 10 ^ width) (cs ds : List Char) :
    compareOfLessAndEq ((padded width m).toList ++ cs) ((padded width n).toList ++ ds)
      = (Ord.compare m n).then (compareOfLessAndEq cs ds) := by
  have size : (padded width m).toList.length = (padded width n).toList.length := by
    rw [length_padded wide first, length_padded wide second]
  have digits := compare_ofDigitChars size (fun c mem => isDigit_of_mem_padded mem)
    (fun c mem => isDigit_of_mem_padded mem) 0 0
  rw [ofDigitChars_padded, ofDigitChars_padded] at digits
  rw [compareOfLessAndEq_append size, digits, Nat.compare_eq_eq.mpr rfl, Ordering.eq_then]

/-! ## Dates -/

/-- The order of the calendar, but backwards between two years before the year 0. -/
def compareWritten (d e : Date) : Ordering :=
  if d.year < 0 ∧ e.year < 0 ∧ d.year ≠ e.year then e.compare d else d.compare e

def unsigned (d : Date) : List Char :=
  (padded 4 d.year.natAbs).toList ++
    '-' :: ((padded 2 d.month).toList ++ '-' :: (padded 2 d.day).toList)

theorem compare_unsigned (d e : Date) :
    compareOfLessAndEq d.unsigned e.unsigned = (Ord.compare d.year.natAbs e.year.natAbs).then
      ((Ord.compare d.month e.month).then (Ord.compare d.day e.day)) := by
  have years := d.year_range
  have years' := e.year_range
  have months := d.month_range.2
  have months' := e.month_range.2
  have days := d.day_le
  have days' := e.day_le
  have first : d.day < 10 ^ 2 := by omega
  have second : e.day < 10 ^ 2 := by omega
  have last := compare_padded (by decide) first second [] []
  have hyphen : Ord.compare '-'.toNat '-'.toNat = .eq := Nat.compare_eq_eq.mpr rfl
  have ended : compareOfLessAndEq ([] : List Char) [] = .eq := rfl
  rw [List.append_nil, List.append_nil, ended, Ordering.then_eq] at last
  rw [unsigned, unsigned, compare_padded (by decide) (by omega) (by omega),
    compareOfLessAndEq_cons, compare_padded (by decide) (by omega) (by omega),
    compareOfLessAndEq_cons, last, hyphen, Ordering.eq_then, Ordering.eq_then]

theorem exists_unsigned_eq_cons (d : Date) :
    ∃ c cs, d.unsigned = c :: cs ∧ '-'.toNat < c.toNat := by
  obtain ⟨c, cs, shape⟩ : ∃ c cs, (padded 4 d.year.natAbs).toList = c :: cs := by
    refine List.exists_cons_of_ne_nil fun empty => ?_
    have years := d.year_range
    have fits : d.year.natAbs < 10 ^ 4 := by omega
    have size := length_padded (by decide) fits
    rw [empty] at size
    cases size
  have digit : c.isDigit = true := isDigit_of_mem_padded (shape ▸ List.mem_cons_self ..)
  have minus : '-'.toNat = 45 := rfl
  refine ⟨c, _, by rw [unsigned, shape, List.cons_append], ?_⟩
  have := (isDigit_iff_range.mp digit).1
  omega

theorem compare_minus_unsigned (d e : Date) :
    compareOfLessAndEq ('-' :: d.unsigned) e.unsigned = .lt ∧
      compareOfLessAndEq e.unsigned ('-' :: d.unsigned) = .gt := by
  obtain ⟨c, cs, shape, less⟩ := e.exists_unsigned_eq_cons
  rw [shape, compareOfLessAndEq_cons, compareOfLessAndEq_cons, Nat.compare_eq_lt.mpr less,
    Nat.compare_eq_gt.mpr less]
  exact ⟨rfl, rfl⟩

theorem compareWritten_of_nonneg {d e : Date} (first : ¬d.year < 0) (second : ¬e.year < 0) :
    compareOfLessAndEq d.unsigned e.unsigned = d.compareWritten e := by
  have less : d.year.natAbs < e.year.natAbs ↔ d.year < e.year := by omega
  have same : d.year.natAbs = e.year.natAbs ↔ d.year = e.year := by omega
  have years : Ord.compare d.year.natAbs e.year.natAbs = Ord.compare d.year e.year := by
    change compareOfLessAndEq _ _ = compareOfLessAndEq _ _
    simp only [compareOfLessAndEq, less, same]
  rw [compare_unsigned, years, compareWritten, if_neg fun h => first h.1]
  rfl

/-- The numbers of two years before the year 0 are in the reverse order of the years. -/
theorem compareWritten_of_neg {d e : Date} (first : d.year < 0) (second : e.year < 0) :
    compareOfLessAndEq d.unsigned e.unsigned = d.compareWritten e := by
  rw [compare_unsigned, compareWritten]
  rcases Int.lt_trichotomy d.year e.year with less | same | more
  · have apart : ¬e.year < d.year ∧ e.year ≠ d.year := by omega
    rw [if_pos ⟨first, second, Int.ne_of_lt less⟩, Date.compare,
      Nat.compare_eq_gt.mpr (by omega)]
    change _ = (compareOfLessAndEq _ _).then _
    simp only [compareOfLessAndEq, apart, if_false, Ordering.gt_then]
  · rw [if_neg fun h => h.2.2 same, Date.compare, same, Nat.compare_eq_eq.mpr rfl]
    change _ = (compareOfLessAndEq _ _).then _
    simp only [compareOfLessAndEq, Int.lt_irrefl, if_false, if_true]
  · rw [if_pos ⟨first, second, Int.ne_of_gt more⟩, Date.compare,
      Nat.compare_eq_lt.mpr (by omega)]
    change _ = (compareOfLessAndEq _ _).then _
    simp only [compareOfLessAndEq, more, if_true, Ordering.lt_then]

theorem compareWritten_of_signs {d e : Date} (first : d.year < 0) (second : ¬e.year < 0) :
    d.compareWritten e = .lt ∧ e.compareWritten d = .gt := by
  have apart : d.year < e.year ∧ ¬e.year < d.year ∧ e.year ≠ d.year := by omega
  rw [compareWritten, compareWritten, if_neg fun h => second h.2.1, if_neg fun h => second h.1,
    Date.compare, Date.compare]
  constructor
  · change (compareOfLessAndEq _ _).then _ = _
    simp only [compareOfLessAndEq, apart, if_true, Ordering.lt_then]
  · change (compareOfLessAndEq _ _).then _ = _
    simp only [compareOfLessAndEq, apart, if_false, Ordering.gt_then]

theorem compareText_text (d e : Date) : compareText d.text e.text = d.compareWritten e := by
  have minus : compareOfLessAndEq ('-' :: d.unsigned) ('-' :: e.unsigned)
      = compareOfLessAndEq d.unsigned e.unsigned := by
    rw [compareOfLessAndEq_cons, Nat.compare_eq_eq.mpr rfl, Ordering.eq_then]
  have shape (d : Date) : d.text.toList = (if d.year < 0 then ['-'] else []) ++ d.unsigned :=
    d.toList_text
  rw [compareText_eq, shape, shape]
  by_cases first : d.year < 0 <;> by_cases second : e.year < 0
  · rw [if_pos first, if_pos second, List.singleton_append, List.singleton_append, minus,
      compareWritten_of_neg first second]
  · rw [if_pos first, if_neg second, List.singleton_append, List.nil_append,
      (compare_minus_unsigned d e).1, (compareWritten_of_signs first second).1]
  · rw [if_neg first, if_pos second, List.singleton_append, List.nil_append,
      (compare_minus_unsigned e d).2, (compareWritten_of_signs second first).2]
  · rw [if_neg first, if_neg second, List.nil_append, List.nil_append,
      compareWritten_of_nonneg first second]

end Date

end RecordStore
