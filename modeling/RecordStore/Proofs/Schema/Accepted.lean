import RecordStore.Predicate.Match
import RecordStore.Proofs.Schema.Names

/-!
The check of a declaration accepts the well-formed ones and reports of any other the first rule
that it breaks. In an accepted one every name has at most one column, and it is at the place
where the native evaluation looks for its value.
-/
namespace RecordStore

open Schema

structure Declaration.IsWellFormed (d : Declaration) : Prop where
  table : ∃ table, d.table = some table ∧ IsPlain table
  nonempty : d.columns ≠ []
  columns : ∀ c ∈ d.columns, IsPlain c.name
  apart : d.columns.Pairwise fun c e => ¬SameUpToCase e.name c.name

/-- What is wrong with a column that stands behind others. -/
inductive Column.Breaks (record : String) (before : List Column) (c : Column) :
    SchemaError → Prop
  | invalid : ¬IsPlain c.name → Breaks record before c (.invalidIdentifier record c.name)
  | duplicate {b : Column} : IsPlain c.name → b ∈ before → SameUpToCase c.name b.name →
      Breaks record before c (.duplicateColumn record c.name)

/-- The first of the columns with which something is wrong, behind those already visited. -/
def Schema.FirstBreaks (record : String) (visited columns : List Column) (e : SchemaError) :
    Prop :=
  ∃ before c after, columns = before ++ c :: after ∧
    (∀ first b second, before = first ++ b :: second →
      ∀ e', ¬b.Breaks record (visited ++ first) e') ∧
    c.Breaks record (visited ++ before) e

/-- The first rule that a declaration breaks. -/
inductive Declaration.Breaks (d : Declaration) : SchemaError → Prop
  | missingTable : d.table = none → Breaks d (.missingTable d.record)
  | table {table : String} : d.table = some table → ¬IsPlain table →
      Breaks d (.invalidIdentifier d.record table)
  | noColumns {table : String} : d.table = some table → IsPlain table → d.columns = [] →
      Breaks d (.noColumns d.record)
  | column {table : String} {e : SchemaError} : d.table = some table → IsPlain table →
      FirstBreaks d.record [] d.columns e → Breaks d e

/-- A column of a name, at its place, where no other column has that name. -/
structure Schema.IsOnlyColumn (columns : List Column) (name : String) (i : Nat) (c : Column) :
    Prop where
  here : columns[i]? = some c
  same : SameUpToCase c.name name
  only : ∀ j e, columns[j]? = some e → SameUpToCase e.name name → j = i

/-! ## The columns of a declaration -/

namespace Schema

variable {record : String} {visited rest columns : List Column} {c : Column}
  {e e' : SchemaError}

theorem not_firstBreaks_nil : ¬FirstBreaks record visited [] e := by
  rintro ⟨before, c, after, shape, _⟩
  cases before <;> cases shape

/-- A column with which something is wrong hides those behind it. -/
theorem firstBreaks_cons_of_breaks (breaks : c.Breaks record visited e) :
    FirstBreaks record visited (c :: rest) e' ↔ e' = e := by
  constructor
  · rintro ⟨before, b, after, shape, sound, broken⟩
    cases before with
    | nil =>
      cases shape
      rw [List.append_nil] at broken
      cases breaks with
      | invalid odd =>
        cases broken with
        | invalid => rfl
        | duplicate plain => exact absurd plain odd
      | duplicate plain =>
        cases broken with
        | invalid odd => exact absurd plain odd
        | duplicate => rfl
    | cons first before =>
      cases shape
      have spared := sound [] c before rfl e
      rw [List.append_nil] at spared
      exact absurd breaks spared
  · rintro rfl
    refine ⟨[], c, rest, rfl, fun first b second shape => ?_, by rwa [List.append_nil]⟩
    cases first <;> cases shape

theorem firstBreaks_cons_of_not_breaks (sound : ∀ e, ¬c.Breaks record visited e) :
    FirstBreaks record visited (c :: rest) e ↔
      FirstBreaks record (visited ++ [c]) rest e := by
  constructor
  · rintro ⟨before, b, after, shape, none, broken⟩
    cases before with
    | nil =>
      cases shape
      rw [List.append_nil] at broken
      exact absurd broken (sound e)
    | cons first before =>
      cases shape
      refine ⟨before, b, after, rfl, fun first b' second shape => ?_, by simpa using broken⟩
      simpa using none (c :: first) b' second (by rw [shape]; rfl)
  · rintro ⟨before, b, after, rfl, none, broken⟩
    refine ⟨c :: before, b, after, rfl, fun first b' second shape => ?_, by simpa using broken⟩
    cases first with
    | nil =>
      cases shape
      simpa using sound
    | cons head first =>
      cases shape
      simpa using none first b' second rfl

end Schema

namespace Declaration

variable {record : String} {visited rest columns : List Column} {c : Column} {e : SchemaError}

theorem checkIdentifier_of_isPlain {name : String} (plain : IsPlain name) :
    checkIdentifier record name = .ok () :=
  if_pos ((isIdentifier_iff name).mpr plain)

theorem checkIdentifier_of_not_isPlain {name : String} (odd : ¬IsPlain name) :
    checkIdentifier record name = .error (.invalidIdentifier record name) :=
  if_neg (mt (isIdentifier_iff name).mp odd)

/-- The names of the visited columns, the last one first. -/
def namesSeen (visited : List Column) : List String := (visited.map Column.name).reverse

theorem isSeen_iff : (namesSeen visited).any (sameName c.name) = true ↔
    ∃ b ∈ visited, SameUpToCase c.name b.name := by
  simp [namesSeen, sameName_iff_sameUpToCase]

theorem checkColumns_of_breaks (breaks : c.Breaks record visited e) :
    checkColumns record (namesSeen visited) (c :: rest) = .error e := by
  rw [checkColumns]
  cases breaks with
  | invalid odd => rw [checkIdentifier_of_not_isPlain odd, error_bind]
  | @duplicate b plain mem same =>
    rw [checkIdentifier_of_isPlain plain, ok_bind, if_pos (isSeen_iff.mpr ⟨b, mem, same⟩)]
    rfl

theorem checkColumns_of_not_breaks (sound : ∀ e, ¬c.Breaks record visited e) :
    checkColumns record (namesSeen visited) (c :: rest)
      = checkColumns record (namesSeen (visited ++ [c])) rest := by
  have plain : IsPlain c.name := by
    by_contra odd
    exact sound _ (.invalid odd)
  have unseen : ¬(namesSeen visited).any (sameName c.name) = true := by
    rw [isSeen_iff]
    rintro ⟨b, mem, same⟩
    exact sound _ (.duplicate plain mem same)
  rw [checkColumns, checkIdentifier_of_isPlain plain, ok_bind, if_neg unseen]
  simp [namesSeen]

theorem checkColumns_eq_error_iff :
    checkColumns record (namesSeen visited) columns = .error e ↔
      FirstBreaks record visited columns e := by
  induction columns generalizing visited with
  | nil => exact ⟨nofun, fun broken => absurd broken not_firstBreaks_nil⟩
  | cons c rest ih =>
    by_cases sound : ∀ e, ¬c.Breaks record visited e
    · rw [checkColumns_of_not_breaks sound, firstBreaks_cons_of_not_breaks sound, ih]
    · obtain ⟨e', breaks⟩ := not_forall_not.mp sound
      rw [checkColumns_of_breaks breaks, firstBreaks_cons_of_breaks breaks, Except.error.injEq,
        eq_comm]

variable {decl : Declaration} {table : String}

theorem describe_of_columns (declared : decl.table = some table) (plain : IsPlain table)
    (some : decl.columns ≠ []) :
    decl.describe = (do
      checkColumns decl.record (namesSeen []) decl.columns
      return ⟨shortName decl.record, table, decl.columns⟩) := by
  have nonempty : ¬decl.columns.isEmpty = true := by simpa using some
  simp only [describe, declared, checkIdentifier_of_isPlain plain, ok_bind, if_neg nonempty]
  rfl

theorem describe_of_breaks (breaks : decl.Breaks e) : decl.describe = .error e := by
  cases breaks with
  | missingTable missing =>
    simp only [describe, missing]
    rfl
  | table declared odd =>
    simp only [describe, declared, checkIdentifier_of_not_isPlain odd]
    rfl
  | noColumns declared plain none =>
    simp only [describe, declared, checkIdentifier_of_isPlain plain, none]
    rfl
  | column declared plain broken =>
    have some : decl.columns ≠ [] := by
      intro none
      rw [none] at broken
      exact not_firstBreaks_nil broken
    rw [describe_of_columns declared plain some, checkColumns_eq_error_iff.mpr broken, error_bind]

theorem breaks_of_describe (refused : decl.describe = .error e) : decl.Breaks e := by
  cases declared : decl.table with
  | none =>
    rw [describe_of_breaks (.missingTable declared)] at refused
    cases refused
    exact .missingTable declared
  | some table =>
    by_cases plain : IsPlain table
    case neg =>
      rw [describe_of_breaks (.table declared plain)] at refused
      cases refused
      exact .table declared plain
    case pos =>
      by_cases none : decl.columns = []
      case pos =>
        rw [describe_of_breaks (.noColumns declared plain none)] at refused
        cases refused
        exact .noColumns declared plain none
      case neg =>
        rw [describe_of_columns declared plain none] at refused
        exact .column declared plain (checkColumns_eq_error_iff.mp (bind_ok_eq_error refused))

theorem describe_eq_error_iff : decl.describe = .error e ↔ decl.Breaks e :=
  ⟨breaks_of_describe, describe_of_breaks⟩

theorem not_breaks_of_isWellFormed (formed : decl.IsWellFormed) : ¬decl.Breaks e := by
  obtain ⟨table, declared, plain⟩ := formed.table
  intro breaks
  cases breaks with
  | missingTable missing =>
    rw [missing] at declared
    cases declared
  | table other odd =>
    cases declared.symm.trans other
    exact odd plain
  | noColumns _ _ none => exact formed.nonempty none
  | column _ _ broken =>
    obtain ⟨before, c, after, shape, _, breaks⟩ := broken
    have apart := formed.apart
    rw [shape] at apart
    cases breaks with
    | invalid odd => exact odd (formed.columns c (by simp [shape]))
    | duplicate _ mem same =>
      exact (List.pairwise_append.mp apart).2.2 _ mem c (List.mem_cons_self ..) same

theorem isWellFormed_of_describe {d : Descriptor} (accepted : decl.describe = .ok d) :
    decl.IsWellFormed := by
  have kept := describe_ok accepted
  have apart := kept.apart
  simp only [sameName_eq_false_iff, kept.declared] at apart
  cases declared : decl.table with
  | none =>
    rw [describe_of_breaks (.missingTable declared)] at accepted
    cases accepted
  | some table =>
    refine ⟨⟨table, declared, ?_⟩, kept.declared ▸ kept.nonempty, fun c mem => ?_, apart⟩
    · by_contra odd
      rw [describe_of_breaks (.table declared odd)] at accepted
      cases accepted
    · exact (isIdentifier_iff c.name).mp (kept.columns c (kept.declared ▸ mem))

theorem accepted_iff : (∃ d, decl.describe = .ok d) ↔ decl.IsWellFormed := by
  constructor
  · rintro ⟨d, accepted⟩
    exact isWellFormed_of_describe accepted
  · intro formed
    cases answer : decl.describe with
    | ok d => exact ⟨d, rfl⟩
    | error e => exact absurd (breaks_of_describe answer) (not_breaks_of_isWellFormed formed)

theorem describe_eq_ok {d : Descriptor} (accepted : decl.describe = .ok d) :
    decl.table = some d.table ∧ d = ⟨shortName decl.record, d.table, decl.columns⟩ := by
  obtain ⟨table, declared, plain⟩ := (isWellFormed_of_describe accepted).table
  have some := (isWellFormed_of_describe accepted).nonempty
  rw [describe_of_columns declared plain some] at accepted
  obtain ⟨_, _, same⟩ := bind_eq_ok accepted
  cases same
  exact ⟨declared, rfl⟩

end Declaration

/-! ## The column of a name -/

namespace Schema

variable {columns : List Column} {name : String} {i : Nat} {c : Column}

/-- Where no two columns share a name, the places of a name are one at most. -/
theorem place_unique {j : Nat} {e : Column}
    (apart : columns.Pairwise fun c e => ¬SameUpToCase e.name c.name)
    (here : columns[i]? = some c) (same : SameUpToCase c.name name)
    (there : columns[j]? = some e) (alike : SameUpToCase e.name name) : j = i := by
  obtain ⟨inside, rfl⟩ := List.getElem?_eq_some_iff.mp here
  obtain ⟨inside', rfl⟩ := List.getElem?_eq_some_iff.mp there
  have apart := List.pairwise_iff_getElem.mp apart
  rcases Nat.lt_trichotomy i j with less | rfl | greater
  · exact absurd (alike.trans same.symm) (apart i j inside inside' less)
  · rfl
  · exact absurd (same.trans alike.symm) (apart j i inside' inside greater)

theorem column?_eq_bind (columns : List Column) (name : String) :
    column? columns name = (position? columns name).bind (columns[·]?) :=
  List.find?_eq_bind_findIdx?_getElem?

theorem IsOnlyColumn.position (single : IsOnlyColumn columns name i c) :
    position? columns name = some i := by
  obtain ⟨inside, here⟩ := List.getElem?_eq_some_iff.mp single.here
  refine List.findIdx?_eq_some_iff_getElem.mpr ⟨inside, ?_, fun j less => ?_⟩
  · rw [here]
    exact (sameName_iff_sameUpToCase ..).mpr single.same
  · rw [sameName_iff_sameUpToCase]
    intro same
    have inside' : j < columns.length := Nat.lt_trans less inside
    exact Nat.ne_of_lt less (single.only j _ (List.getElem?_eq_getElem inside') same)

theorem column?_eq_some_iff_isOnlyColumn
    (apart : columns.Pairwise fun c e => ¬SameUpToCase e.name c.name) :
    column? columns name = some c ↔ ∃ i, IsOnlyColumn columns name i c := by
  constructor
  · intro found
    rw [column?_eq_bind] at found
    obtain ⟨i, place, here⟩ := Option.bind_eq_some_iff.mp found
    obtain ⟨_, alike, _⟩ := List.findIdx?_eq_some_iff_getElem.mp place
    obtain ⟨_, rfl⟩ := List.getElem?_eq_some_iff.mp here
    have same := (sameName_iff_sameUpToCase ..).mp alike
    exact ⟨i, here, same, fun j e there alike => place_unique apart here same there alike⟩
  · rintro ⟨i, single⟩
    rw [column?_eq_bind, single.position]
    exact single.here

theorem column?_eq_none_iff_sameUpToCase :
    column? columns name = none ↔ ∀ c ∈ columns, ¬SameUpToCase c.name name := by
  simp only [column?_eq_none_iff, sameName_eq_false_iff]

theorem IsOnlyColumn.valueIn (single : IsOnlyColumn columns name i c) (values : List Value) :
    valueIn columns values name = (values[i]?).getD .null := by
  rw [RecordStore.valueIn, single.position]

end Schema

namespace Declaration

/-- A declaration is accepted exactly if it is well formed, and else refused for the first rule
that it breaks. The descriptor has the declared columns. It finds in them the only column of a
name, however that is written, at the place where evaluation finds the value. -/
theorem describe_exactly (decl : Declaration) :
    ((∃ d, decl.describe = .ok d) ↔ decl.IsWellFormed) ∧
    (∀ e, decl.describe = .error e ↔ decl.Breaks e) ∧
    ∀ d, decl.describe = .ok d →
      decl.table = some d.table ∧ d = ⟨shortName decl.record, d.table, decl.columns⟩ ∧
      ∀ name,
        (∀ c, d.column? name = some c ↔ ∃ i, IsOnlyColumn d.columns name i c) ∧
        (∀ i c, IsOnlyColumn d.columns name i c →
          position? decl.columns name = some i ∧
          ∀ values, valueIn decl.columns values name = (values[i]?).getD .null) ∧
        (d.column? name = none ↔ ∀ c ∈ d.columns, ¬SameUpToCase c.name name) := by
  refine ⟨accepted_iff, fun e => describe_eq_error_iff, fun d accepted => ?_⟩
  obtain ⟨table, shape⟩ := describe_eq_ok accepted
  have apart := (isWellFormed_of_describe accepted).apart
  refine ⟨table, shape, fun name => ?_⟩
  rw [shape]
  exact ⟨fun c => column?_eq_some_iff_isOnlyColumn apart,
    fun i c single => ⟨single.position, single.valueIn⟩, column?_eq_none_iff_sameUpToCase⟩

/-- A column is found under another spelling, and would not bear a second one beside it. -/
theorem describe_exactly_tags :
    ∃ (tags twice : Declaration) (d : Descriptor),
      tags = ⟨"driver::Tagged", some "TAGS", [⟨"_id", .integer⟩, ⟨"Label9", .text⟩]⟩ ∧
      twice = { tags with columns := tags.columns ++ [⟨"lABEL9", .text⟩, ⟨"9", .text⟩] } ∧
      tags.IsWellFormed ∧ tags.describe = .ok d ∧
      IsOnlyColumn d.columns "LABEL9" 1 ⟨"Label9", .text⟩ ∧
      valueIn tags.columns [.integer 1, .text "red"] "LABEL9" = .text "red" ∧
      twice.Breaks (.duplicateColumn "driver::Tagged" "lABEL9") := by
  let tags : Declaration :=
    ⟨"driver::Tagged", some "TAGS", [⟨"_id", .integer⟩, ⟨"Label9", .text⟩]⟩
  let twice : Declaration :=
    { tags with columns := tags.columns ++ [⟨"lABEL9", .text⟩, ⟨"9", .text⟩] }
  obtain ⟨formed, _, lookup⟩ := describe_exactly tags
  have accepted : tags.describe = .ok ⟨"Tagged", "TAGS", tags.columns⟩ :=
    eq_ok_of_toOption (by decide)
  obtain ⟨_, _, found⟩ := lookup _ accepted
  obtain ⟨i, single⟩ := ((found "LABEL9").1 ⟨"Label9", .text⟩).mp (by decide)
  obtain ⟨place, value⟩ := (found "LABEL9").2.1 i _ single
  cases place.symm.trans (show position? tags.columns "LABEL9" = some 1 by decide)
  exact ⟨tags, twice, _, rfl, rfl, formed.mp ⟨_, accepted⟩, accepted, single, value _,
    ((describe_exactly twice).2.1 _).mp rfl⟩

end Declaration

end RecordStore
