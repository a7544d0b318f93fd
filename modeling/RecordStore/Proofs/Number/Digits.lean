import RecordStore.Literal
import RecordStore.Number.Decimal
import RecordStore.Store.Affinity

/-!
Numbers in decimal digits. The text of an integer reads back as the integer, and no text of
a number has a character that SQL takes for anything else.
-/
namespace RecordStore

theorem isDigit_of_mem_toDigits {n : Nat} {c : Char} (mem : c ∈ Nat.toDigits 10 n) :
    c.isDigit = true :=
  Nat.isDigit_of_mem_toDigits (by decide) (by decide) mem

theorem toList_toString_int (i : Int) :
    (toString i).toList = (if i < 0 then ['-'] else []) ++ Nat.toDigits 10 i.natAbs := by
  rw [Int.toString_eq_repr, Int.repr_eq_if]
  by_cases negative : i < 0
  · have size : (-i).toNat = i.natAbs := by omega
    simp [negative, Int.not_le.mpr negative, size]
  · have size : i.toNat = i.natAbs := by omega
    simp [negative, Int.not_lt.mp negative, size]

namespace NumericText

theorem isSpace_of_isDigit {c : Char} (digit : c.isDigit = true) : isSpace c = false := by
  simp only [Char.isDigit, Bool.and_eq_true, decide_eq_true_eq] at digit
  simp only [isSpace, Bool.or_eq_false_iff, beq_eq_false_iff_ne, Bool.and_eq_false_iff,
    decide_eq_false_iff_not]
  have low : 48 ≤ c.toNat := digit.1
  refine ⟨?_, .inr (by omega)⟩
  rintro rfl
  revert low
  decide

theorem readDigits_of_digits {digits : List Char} (all : ∀ c ∈ digits, c.isDigit = true) :
    readDigits digits = (digits.map digitValue, []) := by
  have taken := @List.takeWhile_append_of_pos Char Char.isDigit digits [] all
  have dropped := @List.dropWhile_append_of_pos Char Char.isDigit digits [] all
  simp only [List.append_nil, List.takeWhile_nil, List.dropWhile_nil] at taken dropped
  rw [readDigits, taken, dropped]

theorem foldl_digitValue (digits : List Char) (n : Nat) :
    (digits.map digitValue).foldl (fun m d => m * 10 + d) n = Nat.ofDigitChars 10 digits n := by
  induction digits generalizing n with
  | nil => simp
  | cons c digits ih =>
    rw [List.map_cons, List.foldl_cons, ih, Nat.ofDigitChars_cons, Nat.mul_comm n 10, digitValue]

/-- The text of an integer is a whole number, namely the integer. -/
theorem read_toString (i : Int) :
    ∃ n, read? (toString i) = some n ∧ n.isWhole = true ∧ n.toInt = i := by
  have digits : ∀ c ∈ Nat.toDigits 10 i.natAbs, c.isDigit = true :=
    fun c mem => isDigit_of_mem_toDigits mem
  have value : ((Nat.toDigits 10 i.natAbs).map digitValue).foldl (fun m d => m * 10 + d) 0
      = i.natAbs := by
    rw [foldl_digitValue, Nat.ofDigitChars_ten_toDigits]
  obtain ⟨c, cs, shape⟩ := List.exists_cons_of_ne_nil (@Nat.toDigits_ne_nil i.natAbs 10)
  have first := digits c (shape ▸ List.mem_cons_self ..)
  have sign : readSign (List.dropWhile isSpace (toString i).toList)
      = (decide (i < 0), Nat.toDigits 10 i.natAbs) := by
    rw [toList_toString_int, shape]
    by_cases negative : i < 0
    · have minus : isSpace '-' = false := by decide
      simp [negative, minus, readSign]
    · simp only [negative, if_false, List.nil_append, isSpace_of_isDigit first, Bool.false_eq_true,
        not_false_eq_true, List.dropWhile_cons_of_neg, decide_false]
      refine readSign.eq_3 (c :: cs) (fun rest same => ?_) (fun rest same => ?_)
      · cases same
        revert first
        decide
      · cases same
        revert first
        decide
  refine ⟨⟨decide (i < 0), (Nat.toDigits 10 i.natAbs).map digitValue, none, none⟩, ?_, rfl, ?_⟩
  · rw [read?, sign]
    dsimp only
    rw [readDigits_of_digits digits]
    have written : ((Nat.toDigits 10 i.natAbs).map digitValue).isEmpty = false := by
      rw [shape]
      rfl
    rw [written]
    rfl
  · simp only [toInt, value]
    by_cases negative : i < 0
    · simp only [negative, decide_true, if_true]
      omega
    · simp only [negative, decide_false, Bool.false_eq_true, if_false]
      omega

end NumericText

theorem int64?_toInt (i : Int64) : int64? i.toInt = some i := by
  rw [int64?, if_pos ⟨i.minValue_le_toInt, i.toInt_le⟩, Int64.ofInt_toInt]

theorem Value.numeric_toString (i : Int64) :
    (Value.text (toString i.toInt)).numeric = .integer i := by
  obtain ⟨n, read, whole, value⟩ := NumericText.read_toString i.toInt
  simp only [numeric, ofNumericText?, read, Option.map_some, whole, if_true, value, int64?_toInt,
    Option.getD_some]

/-! ## Characters of numbers -/

def isNumberChar (c : Char) : Bool := c.isDigit || c == '-' || c == '.'

theorem isNumberChar_of_isDigit {c : Char} (digit : c.isDigit = true) :
    isNumberChar c = true := by
  simp [isNumberChar, digit]

theorem isNumberChar_toString (i : Int) : ∀ c ∈ (toString i).toList, isNumberChar c = true := by
  intro c mem
  rw [toList_toString_int] at mem
  rcases List.mem_append.mp mem with sign | digit
  · split at sign
    · cases List.mem_singleton.mp sign
      decide
    · cases sign
  · exact isNumberChar_of_isDigit (isDigit_of_mem_toDigits digit)

namespace Numeral

variable {n : Numeral}

theorem isDigit_of_mem_whole (digits : ∀ c ∈ n.digits, c.isDigit = true) :
    ∀ c ∈ n.whole, c.isDigit = true := by
  intro c mem
  have zero : '0'.isDigit = true := by decide
  unfold whole at mem
  split at mem
  · cases List.mem_singleton.mp mem
    exact zero
  · dsimp only at mem
    split at mem
    · cases List.mem_singleton.mp mem
      exact zero
    · rcases List.mem_append.mp mem with own | filled
      · exact digits c (List.mem_of_mem_take own)
      · cases List.eq_of_mem_replicate filled
        exact zero

theorem isDigit_of_mem_fraction (digits : ∀ c ∈ n.digits, c.isDigit = true) :
    ∀ c ∈ n.fraction, c.isDigit = true := by
  intro c mem
  unfold fraction at mem
  split at mem
  · split at mem
    · cases mem
    · rcases List.mem_append.mp mem with filled | own
      · cases List.eq_of_mem_replicate filled
        decide
      · exact digits c own
  · exact digits c (List.mem_of_mem_drop mem)

theorem isNumberChar_positional (digits : ∀ c ∈ n.digits, c.isDigit = true) (pointed : Bool) :
    ∀ c ∈ (n.positional pointed).toList, isNumberChar c = true := by
  intro c mem
  simp only [positional, String.toList_ofList] at mem
  have fractions : ∀ c ∈ (if n.fraction.isEmpty && pointed then ['0'] else n.fraction),
      isNumberChar c = true := by
    intro c mem
    split at mem
    · cases List.mem_singleton.mp mem
      decide
    · exact isNumberChar_of_isDigit (isDigit_of_mem_fraction digits c mem)
  generalize (if n.fraction.isEmpty && pointed then ['0'] else n.fraction) = shown at mem fractions
  rcases List.mem_append.mp mem with front | behind
  · rcases List.mem_append.mp front with signed | whole
    · unfold Numeral.sign at signed
      split at signed
      · cases List.mem_singleton.mp signed
        decide
      · cases signed
    · exact isNumberChar_of_isDigit (isDigit_of_mem_whole digits c whole)
  · split at behind
    · cases behind
    · rcases List.mem_cons.mp behind with rfl | digit
      · decide
      · exact fractions c digit

theorem isDigit_of_mem_digits (negative : Bool) (d : Decimal) :
    ∀ c ∈ (ofDecimal negative d).digits, c.isDigit = true := by
  intro c mem
  unfold ofDecimal at mem
  split at mem
  · cases mem
  · have within : c ∈ Nat.toDigits 10 d.digits := by
      exact List.mem_reverse.mp ((List.dropWhile_suffix _).subset (List.mem_reverse.mp mem))
    exact isDigit_of_mem_toDigits within

end Numeral

theorem Real64.isNumberChar_plainText (x : Real64) :
    ∀ c ∈ x.plainText.toList, isNumberChar c = true :=
  Numeral.isNumberChar_positional (Numeral.isDigit_of_mem_digits _ _) false

end RecordStore
