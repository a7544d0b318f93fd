import RecordStore.Store.Connection

/-!
Where paths lead. It depends on the places of the files and on the directories, and never on
tables or connections.
-/
namespace RecordStore.Store

variable {s s' : Store} {path : String} {file : Nat}

def LeadsTo (s : Store) (path : String) (file : Nat) : Prop :=
  '\x00' ∉ path.toList ∧ ∃ place, s.placeOf? path = some place ∧
    s.fileAt? place = some file

theorem LeadsTo.openPath (leads : s.LeadsTo path file) (enforced : Bool) :
    s.openPath path enforced = .ok (s.connect file enforced) := by
  obtain ⟨clean, place, way, there⟩ := leads
  simp [Store.openPath, clean, way, there]

theorem LeadsTo.lt (leads : s.LeadsTo path file) : file < s.files.length := by
  obtain ⟨_, place, _, there⟩ := leads
  exact (List.findIdx?_eq_some_iff_findIdx_eq.mp there).1

theorem fileAt?_congr (places : s'.files.map DatabaseFile.place = s.files.map DatabaseFile.place) :
    s'.fileAt? = s.fileAt? := by
  funext place
  have mapped (t : Store) : t.fileAt? place
      = (t.files.map DatabaseFile.place).findIdx? (· == some place) := by
    rw [List.findIdx?_map]
    rfl
  rw [mapped, mapped, places]

theorem LeadsTo.congr (leads : s.LeadsTo path file)
    (places : s'.files.map DatabaseFile.place = s.files.map DatabaseFile.place)
    (directories : s'.directories = s.directories) : s'.LeadsTo path file := by
  have enter : s'.enter = s.enter := by
    funext place segment
    simp only [Store.enter, isDirectory, fileAt?_congr places, directories]
    rfl
  obtain ⟨clean, place, way, there⟩ := leads
  refine ⟨clean, place, ?_, ?_⟩
  · rw [placeOf?, enter]
    exact way
  · rw [fileAt?_congr places]
    exact there

theorem places_putTables (s : Store) (file : Nat) (tables : Tables) :
    (s.putTables file tables).files.map DatabaseFile.place
      = s.files.map DatabaseFile.place := by
  apply List.ext_getElem?
  intro i
  simp only [putTables, List.getElem?_map, List.getElem?_modify]
  cases s.files[i]? with
  | none => rfl
  | some f => by_cases same : file = i <;> simp [same]

theorem isPlaced_congr {s s' : Store}
    (places : s'.files.map DatabaseFile.place = s.files.map DatabaseFile.place) (file : Nat) :
    s'.isPlaced file = s.isPlaced file := by
  have eq (s : Store) : s.isPlaced file
      = (((s.files.map DatabaseFile.place)[file]?).bind id).isSome := by
    rw [isPlaced, List.getElem?_map]
    cases s.files[file]? <;> rfl
  rw [eq, eq, places]

theorem committed_putTables (inside : file < s.files.length) (tables : Tables) :
    (s.putTables file tables).committed file = tables := by
  simp [committed, putTables, inside]

end RecordStore.Store
