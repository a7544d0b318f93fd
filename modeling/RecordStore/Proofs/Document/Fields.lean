import RecordStore.Document
import RecordStore.Proofs.Outcome

/-!
Records that are put together field by field. What comes out depends only on which fields a
document has: not on their order, and not on fields that the record does not know.
-/
namespace RecordStore.Document

variable {α : Type} {fields entries : List (String × Document)}

/-! ## The fields of a map -/

theorem mem_putField {name : String} {d : Document} {entry : String × Document}
    (mem : entry ∈ putField name d fields) : entry = (name, d) ∨ entry ∈ fields := by
  induction fields with
  | nil => exact .inl (List.mem_singleton.mp mem)
  | cons head rest ih =>
    rw [putField] at mem
    split at mem
    · exact List.mem_cons.mp mem
    · split at mem
      · exact (List.mem_cons.mp mem).imp_right (List.mem_cons_of_mem _)
      · rcases List.mem_cons.mp mem with rfl | mem
        · exact .inr (List.mem_cons_self ..)
        · exact (ih mem).imp_right (List.mem_cons_of_mem _)

theorem mem_names_putField {name other : String} {d : Document} :
    other ∈ (putField name d fields).map Prod.fst ↔ other = name ∨ other ∈ fields.map Prod.fst := by
  induction fields with
  | nil => simp [putField]
  | cons head rest ih =>
    rw [putField]
    split
    · simp
    · split
      · rename_i same
        simp [same]
      · simp only [List.map_cons, List.mem_cons, ih]
        exact or_left_comm

/-- A map has the fields it is made of, sorted by their names. -/
theorem ofFields_shape (entries : List (String × Document)) :
    ∃ sorted, ofFields entries = .map sorted ∧ (∀ entry ∈ sorted, entry ∈ entries) ∧
      ∀ name, name ∈ sorted.map Prod.fst ↔ name ∈ entries.map Prod.fst := by
  refine ⟨_, rfl, ?_⟩
  suffices each : ∀ start : List (String × Document),
      let sorted := entries.foldl (fun sorted entry => putField entry.1 entry.2 sorted) start
      (∀ entry ∈ sorted, entry ∈ entries ∨ entry ∈ start) ∧
        ∀ name, name ∈ sorted.map Prod.fst
          ↔ name ∈ entries.map Prod.fst ∨ name ∈ start.map Prod.fst by
    simpa using each []
  induction entries with
  | nil => exact fun start => ⟨fun _ => .inr, fun _ => by simp⟩
  | cons first entries ih =>
    intro start
    obtain ⟨members, names⟩ := ih (putField first.1 first.2 start)
    refine ⟨fun entry mem => ?_, fun name => ?_⟩
    · rcases members entry mem with mem | mem
      · exact .inl (List.mem_cons_of_mem _ mem)
      · rcases mem_putField mem with rfl | mem
        · exact .inl (List.mem_cons_self ..)
        · exact .inr mem
    · rw [List.foldl_cons, names, mem_names_putField, List.map_cons, List.mem_cons, or_left_comm,
        or_assoc]

/-! ## Putting fields -/

/-- Every entry is one of the fields, or has a name that none of them has. -/
def PickedFrom (fields entries : List (String × Document)) : Prop :=
  ∀ entry ∈ entries, entry ∈ fields ∨ entry.1 ∉ fields.map Prod.fst

/-- Putting fields makes the records `only kept`, where `kept` has the names of the fields
put so far. -/
structure BuiltBy (put : α → String → Document → Except DecodeError α)
    (fields : List (String × Document)) (only : List String → α) : Prop where
  known : ∀ kept, ∀ entry ∈ fields, put (only kept) entry.1 entry.2 = .ok (only (entry.1 :: kept))
  unknown : ∀ a name d, name ∉ fields.map Prod.fst → put a name d = .ok a
  same : ∀ kept kept', (∀ name ∈ fields.map Prod.fst, name ∈ kept ↔ name ∈ kept') →
    only kept = only kept'

variable {put : α → String → Document → Except DecodeError α} {only : List String → α}

theorem BuiltBy.putAll (built : BuiltBy put fields only) (picked : PickedFrom fields entries)
    (kept : List String) :
    entries.foldlM (fun a (name, d) => put a name d) (only kept)
      = .ok (only (entries.map Prod.fst ++ kept)) := by
  induction entries generalizing kept with
  | nil => rfl
  | cons entry entries ih =>
    obtain ⟨name, d⟩ := entry
    have rest := ih fun e mem => picked e (List.mem_cons_of_mem _ mem)
    rw [List.foldlM_cons]
    rcases picked (name, d) (List.mem_cons_self ..) with mem | absent
    · simp only [built.known kept (name, d) mem, ok_bind, rest]
      exact congrArg Except.ok (built.same _ _ fun other _ => by simp [or_left_comm])
    · simp only [built.unknown (only kept) name d absent, ok_bind, rest]
      refine congrArg Except.ok (built.same _ _ fun other mem => ?_)
      have different : other ≠ name := fun same => absent (same ▸ mem)
      simp [different]

theorem BuiltBy.decode_map (built : BuiltBy put fields only) (picked : PickedFrom fields entries)
    (expected : String) (names : List String) :
    decodeFields expected names put (only []) (ofFields entries)
      = .ok (only (entries.map Prod.fst), none) := by
  obtain ⟨sorted, shape, members, names⟩ := ofFields_shape entries
  have put_all := built.putAll (fun entry mem => picked entry (members entry mem)) []
  rw [shape, decodeFields, put_all, ok_bind, List.append_nil,
    built.same _ (entries.map Prod.fst) fun name _ => names name]
  rfl

theorem zip_take (fields : List (String × Document)) (count : Nat) :
    (fields.map Prod.fst).zip ((fields.take count).map Prod.snd) = fields.take count := by
  induction fields generalizing count with
  | nil => simp
  | cons entry fields ih =>
    cases count with
    | zero => rfl
    | succ count => simpa using ih count

theorem BuiltBy.decode_list (built : BuiltBy put fields only) (expected : String) (count : Nat) :
    decodeFields expected (fields.map Prod.fst) put (only [])
        (.list ((fields.take count).map Prod.snd))
      = .ok (only ((fields.take count).map Prod.fst), some (fields.take count).length) := by
  have picked : PickedFrom fields (fields.take count) :=
    fun entry mem => .inl (List.mem_of_mem_take mem)
  rw [decodeFields, zip_take, built.putAll picked [], ok_bind, List.append_nil, List.length_map]
  rfl

/-! ## Records whose fields may be left out -/

/-- A decoder reads a value back, and reads any part of its fields as the record with these
fields: as a map beside unknown fields, or as a list of the first of them. -/
structure DecodesParts (decode : Document → Except DecodeError α) (encoded : Document) (v : α)
    (fields : List (String × Document)) (only : List String → α) : Prop where
  whole : decode encoded = .ok v
  part : ∀ entries, PickedFrom fields entries →
    decode (.ofFields entries) = .ok (only (entries.map Prod.fst))
  first : ∀ count,
    decode (.list ((fields.take count).map Prod.snd)) = decode (.ofFields (fields.take count))

theorem BuiltBy.decodesParts (built : BuiltBy put fields only) {expected : String}
    {decode : Document → Except DecodeError α} {v : α}
    (decoder : ∀ d, decode d = do
      let (a, length) ← d.decodeFields expected (fields.map Prod.fst) put (only [])
      checkLength (fields.map Prod.fst).length length
      return a)
    (whole : only (fields.map Prod.fst) = v) :
    DecodesParts decode (.ofFields fields) v fields only := by
  have part : ∀ entries, PickedFrom fields entries →
      decode (.ofFields entries) = .ok (only (entries.map Prod.fst)) := by
    intro entries picked
    rw [decoder, built.decode_map picked, ok_bind]
    rfl
  refine ⟨whole ▸ part fields fun entry mem => .inl mem, part, fun count => ?_⟩
  have short : (fields.take count).length ≤ (fields.map Prod.fst).length := by
    rw [List.length_map]
    exact List.length_take_le' ..
  rw [part _ fun entry mem => .inl (List.mem_of_mem_take mem), decoder, built.decode_list, ok_bind]
  simp only [checkLength, if_pos short]
  rfl

theorem DecodesParts.map {β : Type} {decode : Document → Except DecodeError α}
    {encoded : Document} {v : α} (parts : DecodesParts decode encoded v fields only) (f : α → β) :
    DecodesParts (fun d => (decode d).map f) encoded (f v) fields fun kept => f (only kept) where
  whole := congrArg (Except.map f) parts.whole
  part entries picked := congrArg (Except.map f) (parts.part entries picked)
  first count := congrArg (Except.map f) (parts.first count)

end RecordStore.Document
