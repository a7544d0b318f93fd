import RecordStore.Proofs.Number.Digits

/-!
The order of stored numbers is the order of their exact values, so numbers that are equal in
it cannot be told apart by any comparison.
-/
namespace RecordStore

theorem compare_mul_right {u : Int} (positive : 0 < u) (a b : Int) :
    compare (a * u) (b * u) = compare a b := by
  rcases Int.lt_trichotomy a b with less | rfl | greater
  · rw [Int.compare_eq_lt.mpr less,
      Int.compare_eq_lt.mpr (Int.mul_lt_mul_of_pos_right less positive)]
  · rw [Int.compare_eq_eq.mpr rfl, Int.compare_eq_eq.mpr rfl]
  · rw [Int.compare_eq_gt.mpr greater,
      Int.compare_eq_gt.mpr (Int.mul_lt_mul_of_pos_right greater positive)]

namespace Real64

theorem unit_pos : 0 < (unit : Int) := by
  have positive : 0 < unit := by decide +kernel
  omega

theorem isFinite_of_units {x : Real64} {i : Int64} (number : x.isNaN = false)
    (equal : i.toInt * (unit : Int) = x.units) : x.isFinite = true := by
  refine Classical.byContradiction fun infinite => ?_
  have magnitude : x.magnitude = infiniteWord := by
    simp only [isNaN, decide_eq_false_iff_not] at number
    simp only [isFinite, decide_eq_true_eq] at infinite
    omega
  obtain ⟨n, size, wide⟩ : ∃ n : Nat, x.size = n * unit ∧ 2 ^ 63 < n := by
    refine ⟨2 ^ 1024, ?_, by decide +kernel⟩
    rw [Real64.size, magnitude]
    decide +kernel
  have cast : (x.size : Int) = n * unit := by rw [size, Int.natCast_mul]
  have beyond : (2 ^ 63 : Int) * unit < n * unit :=
    Int.mul_lt_mul_of_pos_right (by omega) unit_pos
  have above : i.toInt * (unit : Int) < 2 ^ 63 * unit :=
    Int.mul_lt_mul_of_pos_right i.toInt_lt unit_pos
  have below : -2 ^ 63 * (unit : Int) ≤ i.toInt * unit :=
    Int.mul_le_mul_of_nonneg_right i.le_toInt (Int.le_of_lt unit_pos)
  rw [Int.neg_mul] at below
  unfold units at equal
  split at equal <;> omega

theorem units_of_compareInt? {i : Int} {x : Real64} (equal : compareInt? i x = some .eq) :
    x.isNaN = false ∧ i * (unit : Int) = x.units := by
  unfold compareInt? at equal
  split at equal
  · cases equal
  · rename_i number
    exact ⟨Bool.eq_false_iff.mpr number,
      Std.LawfulEqCmp.compare_eq_iff_eq.mp (Option.some.inj equal)⟩

theorem compareInt?_of_number {x : Real64} (number : x.isNaN = false) (i : Int) :
    compareInt? i x = some (compare (i * unit) x.units) := by
  rw [compareInt?, number]
  rfl

theorem toInt?_of_compareInt? {i : Int64} {x : Real64}
    (equal : compareInt? i.toInt x = some .eq) : x.toInt? = some i.toInt := by
  obtain ⟨number, units⟩ := units_of_compareInt? equal
  have whole : x.units % (unit : Int) = 0 := by rw [← units, Int.mul_emod_left]
  have quotient : x.units / (unit : Int) = i.toInt := by
    rw [← units, Int.mul_ediv_cancel _ (Int.ne_of_gt unit_pos)]
  rw [toInt?, if_pos ⟨isFinite_of_units number units, whole⟩, quotient]

end Real64

namespace Value

/-- Values that equal one number stand in one order to everything. -/
theorem storedOrder?_congr {v : Value} {x : Real64}
    (equal : v.storedOrder? (.real x) = some .eq) (a : Value) :
    a.storedOrder? v = a.storedOrder? (.real x) := by
  cases v with
  | null | text s | blob bytes => cases equal
  | integer i =>
    obtain ⟨number, units⟩ := Real64.units_of_compareInt? equal
    cases a with
    | null | text s | blob bytes => rfl
    | integer j =>
      rw [storedOrder?, storedOrder?, Real64.compareInt?_of_number number, ← units,
        compare_mul_right Real64.unit_pos]
    | real y =>
      simp only [storedOrder?, Real64.compareInt?, Real64.compare?, number, Bool.or_false, units]
      split
      · rfl
      · rw [Option.map_some, ← Std.OrientedCmp.eq_swap]
  | real y =>
    have same : y.isNaN = false ∧ x.isNaN = false ∧ y.units = x.units := by
      simp only [storedOrder?, Real64.compare?] at equal
      split at equal
      · cases equal
      · rename_i numbers
        simp only [Bool.or_eq_true, not_or, Bool.not_eq_true] at numbers
        exact ⟨numbers.1, numbers.2,
          Std.LawfulEqCmp.compare_eq_iff_eq.mp (Option.some.inj equal)⟩
    obtain ⟨hy, hx, units⟩ := same
    cases a with
    | null | text s | blob bytes => rfl
    | integer j =>
      rw [storedOrder?, storedOrder?, Real64.compareInt?_of_number hx,
        Real64.compareInt?_of_number hy, units]
    | real z => rw [storedOrder?, storedOrder?, Real64.compare?, Real64.compare?, hx, hy, units]

/-- What equals a row key stands for it, unless it is the real that equals the least. -/
theorem toKey?_of_equal {v : Value} {i : Int64}
    (equal : v.numeric.storedOrder? (.integer i) = some .eq) :
    v.toKey? = some i ∨ (i = Int64.minValue ∧ ∃ x, v.numeric = .real x) := by
  unfold toKey?
  cases shape : v.numeric with
  | null | text s | blob bytes => rw [shape] at equal; cases equal
  | integer j =>
    rw [shape] at equal
    have same : j.toInt = i.toInt :=
      Std.LawfulEqCmp.compare_eq_iff_eq.mp (Option.some.inj equal)
    exact .inl (congrArg some (Int64.toInt_inj.mp same))
  | real x =>
    rw [shape] at equal
    obtain ⟨o, order, swapped⟩ := Option.map_eq_some_iff.mp equal
    have exact_order : Real64.compareInt? i.toInt x = some .eq := by
      cases o with
      | eq => exact order
      | lt | gt => cases swapped
    by_cases least : i = Int64.minValue
    · exact .inr ⟨least, x, rfl⟩
    · refine .inl ?_
      simp only [integral, Real64.toInt?_of_compareInt? exact_order, Option.bind_some,
        int64?_toInt, if_neg least]

end Value

end RecordStore
