import RecordStore.Number.Real

/-!
Integers of up to 53 bits are binary64 numbers, so rounding leaves them alone.
-/
namespace RecordStore.Real64

-- Powers of numbers are those of the core library, whatever algebra is imported beside it.
attribute [local instance (high)] instPowNat instNatPowNat

theorem divideToEven_mul (q : Nat) {d : Nat} (positive : 0 < d) : divideToEven (q * d) d = q := by
  simp [divideToEven, Nat.mul_div_cancel _ positive, positive]

theorem pow_two_split {a b c : Nat} (h : a = b + c) : 2 ^ a = 2 ^ b * 2 ^ c := by
  rw [h, Nat.pow_add]

theorem unitsOfWord_wordOfUnits {m scale : Nat} (low : 2 ^ 52 ≤ m) (high : m < 2 ^ 53)
    (range : scale ≤ 2045) :
    unitsOfWord (wordOfUnits (m * 2 ^ scale) 1) = m * 2 ^ scale ∧
      wordOfUnits (m * 2 ^ scale) 1 < infiniteWord := by
  have positive : 0 < 2 ^ scale := Nat.two_pow_pos scale
  have top : (m * 2 ^ scale).log2 = 52 + scale := by
    refine (Nat.log2_eq_iff (Nat.ne_of_gt (Nat.mul_pos (by omega) positive))).mpr ⟨?_, ?_⟩
    · rw [pow_two_split rfl]
      exact Nat.mul_le_mul_right _ low
    · rw [pow_two_split (show 52 + scale + 1 = 53 + scale by omega)]
      exact Nat.mul_lt_mul_of_pos_right high positive
  have word : wordOfUnits (m * 2 ^ scale) 1 = scale * 2 ^ 52 + m := by
    have finite : scale * 2 ^ 52 + m ≤ infiniteWord := by
      unfold infiniteWord
      omega
    simp only [wordOfUnits, Nat.div_one, top, Nat.add_sub_cancel_left, Nat.one_mul,
      divideToEven_mul m positive]
    exact Nat.min_eq_right finite
  have field : (scale * 2 ^ 52 + m) / 2 ^ 52 = scale + 1 := by omega
  have fraction : 2 ^ 52 + (scale * 2 ^ 52 + m) % 2 ^ 52 = m := by omega
  rw [word]
  refine ⟨?_, by unfold infiniteWord; omega⟩
  simp only [unitsOfWord, field, fraction, Nat.add_sub_cancel, Nat.succ_ne_zero, if_false]

theorem word_ofWord (negative : Bool) {w : Nat} (small : w < infiniteWord) :
    (ofWord negative w).magnitude = w ∧ (ofWord negative w).negative = negative := by
  unfold infiniteWord at small
  have fits : (if negative then 2 ^ 63 + w else w) < 2 ^ 64 := by
    split <;> omega
  have word : (ofWord negative w).word = if negative then 2 ^ 63 + w else w := by
    rw [ofWord, Real64.word, UInt64.toNat_ofNat', Nat.mod_eq_of_lt fits]
  unfold magnitude Real64.negative
  rw [word]
  cases negative
  · simp
    omega
  · simp
    omega

/-- An integer of up to 53 bits has an exact number. -/
theorem ofInt_exact {i : Int} (small : i.natAbs ≤ 2 ^ 53) :
    (ofInt i).isNaN = false ∧ (ofInt i).units = i * (unit : Int) := by
  rcases Nat.eq_zero_or_pos i.natAbs with zero | positive
  · have none : i = 0 := by omega
    subst none
    exact ⟨by decide +kernel, by decide +kernel⟩
  obtain ⟨m, scale, low, high, range, split⟩ : ∃ m scale, 2 ^ 52 ≤ m ∧ m < 2 ^ 53 ∧
      scale ≤ 2045 ∧ i.natAbs * unit = m * 2 ^ scale := by
    have bits := Nat.log2_self_le (show i.natAbs ≠ 0 by omega)
    have next := Nat.lt_log2_self (n := i.natAbs)
    by_cases greatest : i.natAbs = 2 ^ 53
    · refine ⟨2 ^ 52, 1075, Nat.le_refl _, by decide, by decide, ?_⟩
      rw [greatest]
      decide +kernel
    · have log : i.natAbs.log2 ≤ 52 := by
        have := (Nat.log2_lt (show i.natAbs ≠ 0 by omega)).mpr
          (show i.natAbs < 2 ^ 53 by omega)
        omega
      refine ⟨i.natAbs * 2 ^ (52 - i.natAbs.log2), 1022 + i.natAbs.log2, ?_, ?_, by omega, ?_⟩
      · rw [pow_two_split (show 52 = i.natAbs.log2 + (52 - i.natAbs.log2) by omega)]
        exact Nat.mul_le_mul_right _ bits
      · rw [pow_two_split (show 53 = (i.natAbs.log2 + 1) + (52 - i.natAbs.log2) by omega)]
        exact Nat.mul_lt_mul_of_pos_right next (Nat.two_pow_pos _)
      · rw [Nat.mul_assoc, ← pow_two_split (show 1074 = (52 - i.natAbs.log2)
          + (1022 + i.natAbs.log2) by omega)]
        rfl
  obtain ⟨units, finite⟩ := unitsOfWord_wordOfUnits low high range
  obtain ⟨magnitude, negative⟩ := word_ofWord (decide (i < 0)) finite
  have number : ofInt i = ofWord (decide (i < 0)) (wordOfUnits (m * 2 ^ scale) 1) := by
    rw [ofInt, ofRatio, split]
  have size : (ofInt i).size = i.natAbs * unit := by
    rw [Real64.size, number, magnitude, units, split]
  constructor
  · rw [isNaN, number, magnitude, decide_eq_false_iff_not]
    omega
  · rw [Real64.units, size, number, negative]
    by_cases below : i < 0
    · have size : (i.natAbs : Int) = -i := by omega
      simp only [below, decide_true, if_true, Int.natCast_mul, size, Int.neg_mul, Int.neg_neg]
    · have size : (i.natAbs : Int) = i := by omega
      simp only [below, decide_false, Bool.false_eq_true, if_false, Int.natCast_mul, size]

end RecordStore.Real64
