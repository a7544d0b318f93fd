import RecordStore.Proofs.Outcome
import RecordStore.Schema

/-!
Descriptors. What a declaration has to keep to be accepted holds of its descriptor.
-/
namespace RecordStore

/-- The names of a descriptor are plain identifiers, and it has the declared columns, of which
there is one and no two share a name. -/
structure Descriptor.IsOf (d : Descriptor) (decl : Declaration) : Prop where
  table : Schema.isIdentifier d.table = true
  columns : ∀ c ∈ d.columns, Schema.isIdentifier c.name = true
  declared : d.columns = decl.columns
  nonempty : d.columns ≠ []
  apart : d.columns.Pairwise fun c e => Schema.sameName e.name c.name = false

namespace Schema

theorem sameName_iff {a b : String} : sameName a b = true ↔ foldCase a = foldCase b := by
  simp [sameName]

theorem column?_eq_none_iff {columns : List Column} {name : String} :
    column? columns name = none ↔ ∀ c ∈ columns, sameName c.name name = false := by
  simp [column?, List.find?_eq_none]

/-- Where no two columns share a name, a name has at most one column. -/
theorem column?_eq_some_iff {columns : List Column} {name : String} {column : Column}
    (apart : columns.Pairwise fun c e => sameName e.name c.name = false) :
    column? columns name = some column ↔
      column ∈ columns ∧ sameName column.name name = true := by
  constructor
  · intro found
    exact ⟨List.mem_of_find?_eq_some found, by simpa using List.find?_some found⟩
  · rintro ⟨mem, same⟩
    induction columns with
    | nil => cases mem
    | cons c rest ih =>
      obtain ⟨first, later⟩ := List.pairwise_cons.mp apart
      rw [column?, List.find?_cons]
      rcases List.mem_cons.mp mem with rfl | behind
      · rw [same]
      · have other : sameName c.name name = false := by
          rw [← Bool.not_eq_true, sameName_iff, ← sameName_iff.mp same]
          intro shared
          have apartHere := first column behind
          rw [sameName_iff.mpr shared.symm] at apartHere
          cases apartHere
        rw [other]
        exact ih later behind

end Schema

namespace Declaration

theorem checkIdentifier_ok {record identifier : String}
    (h : checkIdentifier record identifier = .ok ()) : Schema.isIdentifier identifier = true := by
  unfold checkIdentifier at h
  split at h
  · assumption
  · cases h

theorem checkColumns_ok {record : String} {seen : List String} {columns : List Column}
    (h : checkColumns record seen columns = .ok ()) :
    ∀ c ∈ columns, Schema.isIdentifier c.name = true := by
  induction columns generalizing seen with
  | nil => simp
  | cons c rest ih =>
    obtain ⟨_, plain, h⟩ := bind_eq_ok h
    split at h
    · cases h
    · exact List.forall_mem_cons.mpr ⟨checkIdentifier_ok plain, ih h⟩

theorem checkColumns_apart {record : String} {seen : List String} {columns : List Column}
    (h : checkColumns record seen columns = .ok ()) :
    (∀ c ∈ columns, ∀ name ∈ seen, Schema.sameName c.name name = false) ∧
      columns.Pairwise fun c e => Schema.sameName e.name c.name = false := by
  induction columns generalizing seen with
  | nil => simp
  | cons c rest ih =>
    obtain ⟨_, _, h⟩ := bind_eq_ok h
    split at h
    · cases h
    · rename_i unseen
      obtain ⟨later, among⟩ := ih h
      have first : ∀ name ∈ seen, Schema.sameName c.name name = false := by
        simpa using unseen
      refine ⟨List.forall_mem_cons.mpr ⟨first, fun e mem name old => ?_⟩,
        List.pairwise_cons.mpr ⟨fun e mem => later e mem c.name (List.mem_cons_self ..), among⟩⟩
      exact later e mem name (List.mem_cons_of_mem _ old)

theorem describe_ok {decl : Declaration} {d : Descriptor} (accepted : decl.describe = .ok d) :
    d.IsOf decl := by
  unfold describe at accepted
  split at accepted
  · obtain ⟨_, table, accepted⟩ := bind_eq_ok accepted
    split at accepted
    · cases accepted
    · rename_i some
      obtain ⟨_, columns, accepted⟩ := bind_eq_ok accepted
      cases Except.ok.inj accepted
      exact ⟨checkIdentifier_ok table, checkColumns_ok columns, rfl, by simpa using some,
        (checkColumns_apart columns).2⟩
  · cases accepted

end Declaration

end RecordStore
