import Mathlib.Data.List.TakeWhile
import RecordStore.Logging
import RecordStore.Proofs.Schema.Names

/-!
Levels by their names. A level is found by each of its names, with blanks around it and in
letters of either case, and by nothing else.
-/
namespace RecordStore

open Schema

namespace Level

def spellings : Level → List String
  | .warn => ["warn", "warning"]
  | l => [l.name]

/-- The text is a name of the level, up to the blanks around it and the case of its letters. -/
def IsNamedBy (l : Level) (s : String) : Prop :=
  ∃ front name back, s.toList = front ++ name ++ back ∧
    (∀ c ∈ front, isBlankChar c = true) ∧ (∀ c ∈ back, isBlankChar c = true) ∧
    ∃ spelling ∈ l.spellings, SameUpToCase (String.ofList name) spelling

end Level

/-! ## Blanks -/

theorem dropWhile_solid {cs : List Char} (solid : ∀ c ∈ cs, isBlankChar c = false) :
    cs.dropWhile isBlankChar = cs := by
  cases cs with
  | nil => rfl
  | cons c cs => simp [solid c (List.mem_cons_self ..)]

theorem dropWhile_blank {cs : List Char} (blank : ∀ c ∈ cs, isBlankChar c = true)
    (rest : List Char) : (cs ++ rest).dropWhile isBlankChar = rest.dropWhile isBlankChar :=
  List.dropWhile_append_of_pos blank

theorem trimBlanks_eq {s : String} {front name back : List Char}
    (shape : s.toList = front ++ name ++ back) (before : ∀ c ∈ front, isBlankChar c = true)
    (behind : ∀ c ∈ back, isBlankChar c = true) (solid : ∀ c ∈ name, isBlankChar c = false) :
    trimBlanks s = String.ofList name := by
  have ended : (name ++ back).reverse.dropWhile isBlankChar = name.reverse := by
    rw [List.reverse_append, dropWhile_blank (by simpa using behind),
      dropWhile_solid (by simpa using solid)]
  rw [trimBlanks, shape, List.append_assoc, dropWhile_blank before]
  cases name with
  | nil =>
    have gone : back.dropWhile isBlankChar = [] := by simpa using dropWhile_blank behind []
    simp [gone]
  | cons c cs =>
    have kept : (c :: cs ++ back).dropWhile isBlankChar = c :: cs ++ back := by
      simp [solid c (List.mem_cons_self ..)]
    rw [kept, ended, List.reverse_reverse]

/-- Only blanks are cut off. -/
theorem exists_trimBlanks (s : String) :
    ∃ front back, s.toList = front ++ (trimBlanks s).toList ++ back ∧
      (∀ c ∈ front, isBlankChar c = true) ∧ ∀ c ∈ back, isBlankChar c = true := by
  let rest := s.toList.dropWhile isBlankChar
  refine ⟨s.toList.takeWhile isBlankChar, (rest.reverse.takeWhile isBlankChar).reverse, ?_,
    fun c mem => List.mem_takeWhile_imp mem,
    fun c mem => List.mem_takeWhile_imp (List.mem_reverse.mp mem)⟩
  have shape : rest = (rest.reverse.dropWhile isBlankChar).reverse
      ++ (rest.reverse.takeWhile isBlankChar).reverse := by
    rw [← List.reverse_append, List.takeWhile_append_dropWhile, List.reverse_reverse]
  rw [trimBlanks, String.toList_ofList, List.append_assoc, ← shape,
    List.takeWhile_append_dropWhile]

/-! ## Levels -/

namespace Level

variable {l : Level} {s : String}

theorem foldCase_spelling : ∀ spelling ∈ l.spellings, foldCase spelling = spelling := by
  cases l <;> decide

theorem isLetter_spelling :
    ∀ spelling ∈ l.spellings, ∀ c ∈ spelling.toList, 97 ≤ c.toNat ∧ c.toNat ≤ 122 := by
  cases l <;> simp [spellings, name]

theorem isBlankChar_of_letter {c : Char} (low : 65 ≤ c.toNat) (high : c.toNat ≤ 122) :
    isBlankChar c = false := by
  simp [isBlankChar, inRanges, blankRanges]
  omega

/-- A name of a level has no blanks in it, in whatever letters it is written. -/
theorem solid_of_sameUpToCase {spelling : String} (mem : spelling ∈ l.spellings)
    {name : List Char} (same : SameUpToCase (String.ofList name) spelling) :
    ∀ c ∈ name, isBlankChar c = false := by
  have letters := isLetter_spelling spelling mem
  rw [SameUpToCase, String.toList_ofList] at same
  intro c here
  obtain ⟨i, inside, rfl⟩ := List.getElem_of_mem here
  obtain ⟨lengths, each⟩ := List.forall₂_iff_get.mp same
  have inside' : i < spelling.toList.length := lengths ▸ inside
  have letter := letters _ (List.getElem_mem inside')
  have relation := each i inside inside'
  simp only [List.get_eq_getElem, IsCapitalOf, ← and_assoc, isCapital_iff] at relation
  rcases relation with same | capital | small
  · rw [same]
    exact isBlankChar_of_letter (by omega) (by omega)
  · exact isBlankChar_of_letter (by omega) (by omega)
  · exact isBlankChar_of_letter (by omega) (by omega)

theorem ofName_eq_ok_iff_mem :
    ofName s = .ok l ↔ foldCase (trimBlanks s) ∈ l.spellings := by
  unfold ofName
  dsimp only
  generalize foldCase (trimBlanks s) = word
  split
  all_goals cases l <;> simp_all [spellings, name]

theorem ofName_eq_ok_iff : ofName s = .ok l ↔ l.IsNamedBy s := by
  rw [ofName_eq_ok_iff_mem]
  constructor
  · intro mem
    obtain ⟨front, back, shape, before, behind⟩ := exists_trimBlanks s
    refine ⟨front, _, back, shape, before, behind, _, mem, ?_⟩
    rw [← sameName_iff_sameUpToCase, sameName_iff, String.ofList_toList,
      foldCase_spelling _ mem]
  · rintro ⟨front, name, back, shape, before, behind, spelling, mem, same⟩
    have trimmed := trimBlanks_eq shape before behind (solid_of_sameUpToCase mem same)
    rw [← sameName_iff_sameUpToCase, sameName_iff] at same
    rw [trimmed, same, foldCase_spelling spelling mem]
    exact mem

theorem ofName_of_unnamed (unnamed : ∀ l : Level, ¬l.IsNamedBy s) :
    ofName s = .error (.unsupportedLevel (foldCase (trimBlanks s))) := by
  cases answer : ofName s with
  | ok l => exact absurd (ofName_eq_ok_iff.mp answer) (unnamed l)
  | error e =>
    unfold ofName at answer
    dsimp only at answer
    split at answer
    all_goals cases answer
    rfl

end Level

end RecordStore
