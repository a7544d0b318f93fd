import Mathlib.Data.List.Forall2
import RecordStore.Proofs.Schema

/-!
Names as texts: which of them are plain, and which are the same but for the case of ASCII
letters. Letters outside ASCII have no case here, and nothing may follow a plain name, not even
the end of its line.
-/
namespace RecordStore.Schema

/-- A letter of ASCII or an underscore. -/
def IsNameLetter (c : Char) : Prop :=
  'A' ≤ c ∧ c ≤ 'Z' ∨ 'a' ≤ c ∧ c ≤ 'z' ∨ c = '_'

def IsPlain (s : String) : Prop :=
  ∃ c rest, s.toList = c :: rest ∧ IsNameLetter c ∧
    ∀ d ∈ rest, IsNameLetter d ∨ '0' ≤ d ∧ d ≤ '9'

/-- The second character is the small form of the first one. -/
def IsCapitalOf (c d : Char) : Prop := 'A' ≤ c ∧ c ≤ 'Z' ∧ d.toNat = c.toNat + 32

def SameUpToCase (a b : String) : Prop :=
  List.Forall₂ (fun c d => c = d ∨ IsCapitalOf c d ∨ IsCapitalOf d c) a.toList b.toList

/-! ## Plain names -/

theorem isLetter_iff (c : Char) : isLetter c = true ↔ IsNameLetter c := by
  have capital : c.isUpper = true ↔ 'A' ≤ c ∧ c ≤ 'Z' := decide_eq_true_iff
  have small : c.isLower = true ↔ 'a' ≤ c ∧ c ≤ 'z' := by
    rw [show c.isLower = (decide ('a' ≤ c) && decide (c ≤ 'z')) from rfl, Bool.and_eq_true,
      decide_eq_true_iff, decide_eq_true_iff]
  have letter : isLetter c = (c.isUpper || c.isLower || c == '_') := rfl
  rw [letter, Bool.or_eq_true, Bool.or_eq_true, capital, small, beq_iff_eq, or_assoc,
    IsNameLetter]

theorem isIdentifier_iff (s : String) : isIdentifier s = true ↔ IsPlain s := by
  unfold isIdentifier IsPlain
  cases s.toList with
  | nil => simp
  | cons c rest =>
    simp [isLetter_iff, Char.isDigit, Char.le_def]

/-! ## Names up to case -/

theorem isCapital_iff (c : Char) : 'A' ≤ c ∧ c ≤ 'Z' ↔ 65 ≤ c.toNat ∧ c.toNat ≤ 90 := by
  rw [Char.le_def, Char.le_def, UInt32.le_iff_toNat_le, UInt32.le_iff_toNat_le]
  rfl

theorem toNat_toLower (c : Char) :
    c.toLower.toNat = if 65 ≤ c.toNat ∧ c.toNat ≤ 90 then c.toNat + 32 else c.toNat := by
  have capital := isCapital_iff c
  unfold Char.toLower
  split
  case isTrue inside =>
    rw [if_pos (capital.mp inside)]
    have small : c.val.toNat ≤ 90 := (capital.mp inside).2
    have moved : (c.val + ('a'.val - 'A'.val)).toNat = c.val.toNat + 32 := by
      rw [UInt32.toNat_add, show ('a'.val - 'A'.val).toNat = 32 from rfl]
      omega
    exact moved
  case isFalse outside =>
    rw [if_neg (mt capital.mpr outside)]

theorem toLower_eq_iff (c d : Char) :
    c.toLower = d.toLower ↔ c = d ∨ IsCapitalOf c d ∨ IsCapitalOf d c := by
  simp only [IsCapitalOf, ← and_assoc, isCapital_iff, ← Char.toNat_inj, toNat_toLower]
  split <;> split <;> omega

theorem sameName_iff_sameUpToCase (a b : String) :
    sameName a b = true ↔ SameUpToCase a b := by
  rw [sameName_iff, foldCase, foldCase, String.ofList_inj, SameUpToCase, ← List.forall₂_eq_eq_eq,
    List.forall₂_map_left_iff, List.forall₂_map_right_iff]
  simp only [toLower_eq_iff]

theorem sameName_eq_false_iff (a b : String) :
    sameName a b = false ↔ ¬SameUpToCase a b := by
  rw [← sameName_iff_sameUpToCase, Bool.not_eq_true]

theorem SameUpToCase.symm {a b : String} (same : SameUpToCase a b) : SameUpToCase b a := by
  rw [← sameName_iff_sameUpToCase, sameName_iff] at same ⊢
  exact same.symm

theorem SameUpToCase.trans {a b c : String} (first : SameUpToCase a b)
    (second : SameUpToCase b c) : SameUpToCase a c := by
  rw [← sameName_iff_sameUpToCase, sameName_iff] at first second ⊢
  exact first.trans second

end RecordStore.Schema
