import RecordStore.Document.Options
import RecordStore.Proofs.Calendar.DayOfYear
import RecordStore.Proofs.Document.Fields

/-!
Options and entries survive being written as documents. Options may be written in part: what
is left out is read as its default.
-/
namespace RecordStore

-- Powers of numbers are those of the core library, whatever algebra is imported beside it.
attribute [local instance (high)] instPowNat instNatPowNat Int.instNatPow

open Sql (TransactionMode)

namespace Document

/-! ## Values -/

theorem toInt?_ofInt {i : Int} (low : -2 ^ 63 ≤ i) (high : i < 2 ^ 64) :
    (ofInt i).toInt? = some i := by
  by_cases negative : i < 0
  · rw [ofInt, if_pos negative, toInt?, Int64.toInt_ofInt_of_le low (by omega)]
  · have size : i.natAbs < 2 ^ 64 := by omega
    rw [ofInt, if_neg negative, toInt?, UInt64.toNat_ofNat_of_lt' size]
    exact congrArg some (by omega)

theorem decodeInt_ofInt {least greatest i : Int} (low : -2 ^ 63 ≤ i) (high : i < 2 ^ 64)
    (range : least ≤ i ∧ i ≤ greatest) (expected : String) :
    decodeInt expected least greatest (ofInt i) = .ok i := by
  simp only [decodeInt, toInt?_ofInt low high, if_pos range]

theorem decodeInt64_ofInt (i : Int64) : decodeInt64 (ofInt i.toInt) = .ok i := by
  have low := i.le_toInt
  have high := i.toInt_lt
  rw [decodeInt64, decodeInt_ofInt low (by omega) (by omega)]
  exact congrArg Except.ok i.ofInt_toInt

theorem decodeInt_natural {greatest : Int} {n : UInt64} (small : (n.toNat : Int) ≤ greatest)
    (expected : String) : decodeInt expected 0 greatest (.natural n) = .ok n.toNat := by
  have range : (0 : Int) ≤ n.toNat ∧ (n.toNat : Int) ≤ greatest := ⟨by omega, small⟩
  simp only [decodeInt, toInt?, if_pos range]

theorem decodeWord_natural (expected : String) (n : UInt64) :
    decodeWord expected (.natural n) = .ok n := by
  have size := n.toNat_lt
  rw [decodeWord, decodeInt_natural (by omega)]
  exact congrArg Except.ok (by simp)

theorem decodeText_text (expected s : String) : decodeText expected (.text s) = .ok s := rfl

def ofText? : Option String → Document
  | none => .null
  | some s => .text s

theorem decodeOption_ofText? (expected : String) (s : Option String) :
    decodeOption (·.decodeText expected) (ofText? s) = .ok s := by
  cases s <;> rfl

end Document

open Document

theorem Sql.TransactionMode.decode_name (mode : TransactionMode) :
    decodeVariant name all (.text mode.name) = .ok mode := by
  cases mode <;> rfl

theorem FilterMode.decode_key (mode : FilterMode) :
    decodeVariant key all (.text mode.key) = .ok mode := by
  cases mode <;> rfl

/-- Every date, those of leap days and of years before the year 0 among them, is read back
from its year and its day of the year. -/
theorem Date.decode_encode (d : Date) : Date.decode d.encode = .ok d := by
  obtain ⟨low, high⟩ := d.year_range
  have days := Nat.le_trans d.dayOfYear_le (Date.daysInYear_le d.year)
  have small : d.dayOfYear < 2 ^ 64 := by omega
  have word : (UInt64.ofNat d.dayOfYear).toNat = d.dayOfYear := UInt64.toNat_ofNat_of_lt' small
  have year : decodeInt "i32" (-2147483648) 2147483647 (ofInt d.year) = .ok d.year :=
    decodeInt_ofInt (by omega) (by omega) (by omega) _
  have day : decodeInt "u16" 0 65535 (.natural (UInt64.ofNat d.dayOfYear)) = .ok ↑d.dayOfYear := by
    rw [decodeInt_natural (by omega), word]
  have known : ¬(d.year < -9999 ∨ 9999 < d.year) := by omega
  simp only [Date.decode, Date.encode, year, day, ok_bind, if_neg known, Int.toNat_natCast,
    Date.ofDayOfYear?_dayOfYear]
  rfl

/-! ## Options -/

theorem RawPath.ofText_of_text? {p : RawPath} {path : String} (text : p.text? = some path) :
    ofText path = p := by
  unfold text? String.fromUTF8? at text
  split at text
  · cases Option.some.inj text
    rfl
  · cases text

namespace StoreOptions

/-- The fields in the order of their declaration. -/
def fields (o : StoreOptions) : List (String × Document) :=
  [("busy_timeout_ms", .natural o.busyTimeoutMs), ("foreign_keys", .boolean o.foreignKeys),
    ("transaction_mode", .text o.transactionMode.name), ("filter_mode", .text o.filterMode.key)]

/-- The options named in `kept`, beside the defaults of all others. -/
def only (o : StoreOptions) (kept : List String) : StoreOptions where
  busyTimeoutMs :=
    if "busy_timeout_ms" ∈ kept then o.busyTimeoutMs else StoreOptions.default.busyTimeoutMs
  foreignKeys := if "foreign_keys" ∈ kept then o.foreignKeys else StoreOptions.default.foreignKeys
  transactionMode :=
    if "transaction_mode" ∈ kept then o.transactionMode else StoreOptions.default.transactionMode
  filterMode := if "filter_mode" ∈ kept then o.filterMode else StoreOptions.default.filterMode

theorem only_fieldNames (o : StoreOptions) : o.only fieldNames = o := by simp [only, fieldNames]

theorem builtBy (o : StoreOptions) : BuiltBy putField o.fields o.only where
  known kept entry mem := by
    simp only [fields, List.mem_cons, List.not_mem_nil, or_false] at mem
    rcases mem with rfl | rfl | rfl | rfl <;>
      simp [putField, only, decodeWord_natural, decodeBoolean, TransactionMode.decode_name,
        FilterMode.decode_key, pure, Except.pure, ok_bind]
  unknown a name d absent := by
    simp only [fields, List.map_cons, List.map_nil, List.mem_cons, not_or] at absent
    simp [putField, absent]
  same kept kept' agree := by
    simp [fields] at agree
    simp [only, agree]

theorem decodesParts (o : StoreOptions) : DecodesParts decode o.encode o o.fields o.only :=
  o.builtBy.decodesParts (fun _ => rfl) o.only_fieldNames

end StoreOptions

namespace LogOptions

def fields (o : LogOptions) : List (String × Document) :=
  [("level", .text o.level),
    ("log_dir", ofText? o.logDir), ("max_file_bytes", .natural o.maxFileBytes),
    ("max_files", .natural o.maxFiles)]

def only (build : Build) (o : LogOptions) (kept : List String) : LogOptions where
  level := if "level" ∈ kept then o.level else (LogOptions.default build).level
  logDir := if "log_dir" ∈ kept then o.logDir else (LogOptions.default build).logDir
  maxFileBytes :=
    if "max_file_bytes" ∈ kept then o.maxFileBytes else (LogOptions.default build).maxFileBytes
  maxFiles := if "max_files" ∈ kept then o.maxFiles else (LogOptions.default build).maxFiles

variable (build : Build)

theorem only_fieldNames (o : LogOptions) : o.only build fieldNames = o := by
  simp [only, fieldNames]

theorem builtBy (o : LogOptions) : BuiltBy putField o.fields (o.only build) where
  known kept entry mem := by
    simp only [fields, List.mem_cons, List.not_mem_nil, or_false] at mem
    rcases mem with rfl | rfl | rfl | rfl <;>
      simp [putField, only, decodeWord_natural, decodeText_text, decodeOption_ofText?, pure,
        Except.pure, ok_bind]
  unknown a name d absent := by
    simp only [fields, List.map_cons, List.map_nil, List.mem_cons, not_or] at absent
    simp [putField, absent]
  same kept kept' agree := by
    simp [fields] at agree
    simp [only, agree]

theorem decodesParts (o : LogOptions) :
    DecodesParts (fun d => decode d build) o.encode o o.fields (o.only build) :=
  (o.builtBy build).decodesParts (fun _ => rfl) (o.only_fieldNames build)

/-- Options whose directory is text are those on text paths. The others have no document. -/
theorem onText?_cases (o : LogOptions RawPath) :
    (∃ path, o.logDir = some path ∧ path.text? = none ∧ o.onText? = none) ∨
      ∃ t : LogOptions, t.onRawPaths = o ∧ o.onText? = some t := by
  obtain ⟨level, dir, maxFileBytes, maxFiles⟩ := o
  cases dir with
  | none => exact .inr ⟨⟨level, none, maxFileBytes, maxFiles⟩, rfl, rfl⟩
  | some path =>
    cases text : path.text? with
    | none => exact .inl ⟨path, rfl, text, by simp [onText?, text]⟩
    | some dir =>
      refine .inr ⟨⟨level, some dir, maxFileBytes, maxFiles⟩, ?_, by simp [onText?, text]⟩
      simp [onRawPaths, RawPath.ofText_of_text? text]

theorem decodesRaw (o : LogOptions RawPath) :
    (∃ path, o.logDir = some path ∧ path.text? = none ∧ o.encodeRaw = .error .pathNotText) ∨
      ∃ t : LogOptions, t.onRawPaths = o ∧ o.encodeRaw = .ok t.encode ∧
        DecodesParts (fun d => decodeRaw d build) t.encode o t.fields
          fun kept => (t.only build kept).onRawPaths := by
  rcases o.onText?_cases with ⟨path, dir, raw, none⟩ | ⟨t, rfl, text⟩
  · exact .inl ⟨path, dir, raw, by rw [encodeRaw, none]⟩
  · exact .inr ⟨t, rfl, by rw [encodeRaw, text], (t.decodesParts build).map onRawPaths⟩

end LogOptions

/-! ## Entries -/

namespace Entry

def fields (e : Entry) : List (String × Document) :=
  [("id", .ofInt e.id.toInt), ("description", ofText? e.description), ("date", e.date.encode)]

def draft (e : Entry) (kept : List String) : Draft where
  id := if "id" ∈ kept then some e.id else none
  description := if "description" ∈ kept then e.description else none
  date := if "date" ∈ kept then some e.date else none

theorem builtBy (e : Entry) : BuiltBy Draft.putField e.fields e.draft where
  known kept entry mem := by
    simp only [fields, List.mem_cons, List.not_mem_nil, or_false] at mem
    rcases mem with rfl | rfl | rfl <;>
      simp [Draft.putField, draft, decodeInt64_ofInt, decodeOption_ofText?, Date.decode_encode,
        pure, Except.pure, ok_bind]
  unknown a name d absent := by
    simp only [fields, List.map_cons, List.map_nil, List.mem_cons, not_or] at absent
    simp [Draft.putField, absent]
  same kept kept' agree := by
    simp [fields] at agree
    simp [draft, agree]

theorem decode_encode (e : Entry) : decode e.encode = .ok e := by
  have read := e.builtBy.decode_map (fun entry mem => .inl mem) "struct Entry" fieldNames
  have encoded : e.encode = .ofFields e.fields := rfl
  have blank : e.draft [] = ⟨none, none, none⟩ := rfl
  rw [blank] at read
  simp only [decode, encoded, read, ok_bind]
  rfl

/-- Three documents make the same entry in a list as under their names, or none in either.
Only which of several flaws is met first depends on the form. -/
theorem decode_list_map (id description date : Document) :
    (decode (.list [id, description, date])).toOption
      = (decode (.ofFields
          [("id", id), ("description", description), ("date", date)])).toOption := by
  have sorted : ofFields [("id", id), ("description", description), ("date", date)]
      = .map [("date", date), ("description", description), ("id", id)] := rfl
  rw [sorted]
  simp only [decode, decodeFields, fieldNames, List.zip_cons_cons, List.zip_nil_right,
    List.foldlM_cons, List.foldlM_nil, Draft.putField]
  cases id.decodeInt64 <;> cases decodeOption (·.decodeText "a string") description <;>
    cases Date.decode date <;> rfl

end Entry

/-- Options and entries survive being written, options also in part: the fields that are
there have their values, in whatever order and beside whatever unknown fields, and the others
their defaults. Lists of the first fields are read as maps of them. Only a directory that is not
text cannot be written. -/
theorem documents_read_back :
    (∀ o : StoreOptions, DecodesParts StoreOptions.decode o.encode o o.fields o.only) ∧
    (∀ build (o : LogOptions RawPath),
      (∃ path, o.logDir = some path ∧ path.text? = none ∧ o.encodeRaw = .error .pathNotText) ∨
        ∃ t : LogOptions, t.onRawPaths = o ∧ o.encodeRaw = .ok t.encode ∧
          DecodesParts (fun d => LogOptions.decodeRaw d build) t.encode o t.fields
            fun kept => (t.only build kept).onRawPaths) ∧
    (∀ e : Entry, Entry.decode e.encode = .ok e ∧
      Entry.decode (.list (e.fields.map Prod.snd)) = .ok e) ∧
    ∀ id description date : Document,
      (Entry.decode (.list [id, description, date])).toOption
        = (Entry.decode (.ofFields
            [("id", id), ("description", description), ("date", date)])).toOption := by
  refine ⟨StoreOptions.decodesParts, LogOptions.decodesRaw, fun e => ⟨e.decode_encode, ?_⟩,
    Entry.decode_list_map⟩
  have alike := Entry.decode_list_map (.ofInt e.id.toInt) (ofText? e.description) e.date.encode
  have encoded : ofFields e.fields = e.encode := rfl
  apply eq_ok_of_toOption
  exact alike.trans (congrArg Except.toOption (encoded ▸ e.decode_encode))

/-- A directory that is not text, and entries with two flaws, of which a list tells the first and
a map the one whose name comes first. -/
theorem documents_read_back_apart :
    LogOptions.encodeRaw ⟨"info", some ⟨⟨#[0xff]⟩⟩, 0, 0⟩ = .error .pathNotText ∧
    Entry.decode (.list [.boolean true, .null, .boolean false])
      = .error (.wrongType "boolean `true`" "i64") ∧
    Entry.decode
        (.ofFields [("id", .boolean true), ("description", .null), ("date", .boolean false)])
      = .error (.wrongType "boolean `false`" "a `Date`") :=
  ⟨rfl, rfl, rfl⟩

/-- Two options that follow an unknown field, logging options in a release of which one is
written, and an entry of a leap day before the year 0. -/
theorem documents_read_back_leap_day :
    StoreOptions.decode (.ofFields [("filter_mode", .text "inline"), ("nonce", .null),
        ("busy_timeout_ms", .natural 18446744073709551615)])
      = .ok ⟨18446744073709551615, true, .deferred, .inline⟩ ∧
    LogOptions.decodeRaw (.ofFields [("max_files", .natural 3)]) .release
      = .ok ⟨"info", none, 10485760, 3⟩ ∧
    Entry.decode (.list [.negative (-9), .null, .list [.negative (-44), .natural 60]])
      = .ok ⟨-9, none, ⟨-44, 2, 29, by decide, by decide⟩⟩ := by
  obtain ⟨options, logging, entries, -⟩ := documents_read_back
  refine ⟨?_, ?_, ?_⟩
  · exact (options ⟨18446744073709551615, false, .exclusive, .inline⟩).part _
      (by simp [PickedFrom, StoreOptions.fields, FilterMode.key])
  · rcases logging .release ⟨"warn", none, 0, 3⟩ with
      ⟨path, dir, _⟩ | ⟨⟨level, dir, maxFileBytes, maxFiles⟩, made, _, parts⟩
    · cases dir
    · cases dir <;> cases made
      exact parts.part [("max_files", .natural 3)] (by simp [PickedFrom, LogOptions.fields])
  · exact (entries ⟨-9, none, ⟨-44, 2, 29, by decide, by decide⟩⟩).2

end RecordStore
