import RecordStore.Proofs.Logging.Levels
import RecordStore.Proofs.Outcome

/-!
Starts of logging. The first that succeeds fixes the level and the target for as long as the
process lasts. Those after it only compare what they ask for with that, and one that is refused
leaves no trace.
-/
namespace RecordStore

open Schema Logging

/-- What options ask for. Not all of them ask for something that could be. -/
inductive LogOptions.AsksFor (o : LogOptions) : LogSettings → Prop
  | stderr {level : Level} : level.IsNamedBy o.level → o.logDir = none →
      AsksFor o ⟨level, .stderr⟩
  | directory {level : Level} {path : String} : level.IsNamedBy o.level →
      o.logDir = some path → Path.isAbsolute path = true → AsksFor o ⟨level, .directory path⟩

/-- Directories are the same if they have the same components. -/
inductive LogTarget.Agrees : LogTarget → LogTarget → Prop
  | stderr : Agrees .stderr .stderr
  | directory {path other : String} : Path.components path = Path.components other →
      Agrees (.directory path) (.directory other)

structure LogSettings.Agrees (active requested : LogSettings) : Prop where
  level : active.level = requested.level
  target : active.target.Agrees requested.target

structure LogStart where
  options : LogOptions
  answer : Except StartError Unit
deriving DecidableEq

/-- Logging in a process after the starts that were tried there, each on a backend that started
or did not. Between them events may be recorded, and others may change the directories. -/
inductive Logging.Tries : List LogStart → Logging → Prop
  | process (tree : FileTree) : Tries [] (.inactive tree)
  | next {starts : List LogStart} {l : Logging} (backend : LogBackend) (o : LogOptions) :
      Tries starts l →
      Tries (starts ++ [⟨o, (l.initOn backend o).1⟩]) (l.initOn backend o).2
  | meanwhile {starts : List LogStart} {l : Logging} (l' : Logging) : Tries starts l →
      l'.active = l.active → Tries starts l'

/-- The start that succeeded first. -/
def IsFirstSuccess (starts : List LogStart) (a : LogStart) : Prop :=
  ∃ before after, starts = before ++ a :: after ∧ a.answer = .ok () ∧
    ∀ b ∈ before, b.answer ≠ .ok ()

/-- How a start ends, and what it leaves behind. -/
structure Logging.Answers (backend : LogBackend) (l : Logging) (o : LogOptions) : Prop where
  willing : (∀ s, backend s = none) →
    l.initOn backend o = ((l.init o).1.mapError .refused, (l.init o).2)
  unsupported : (∀ level : Level, ¬level.IsNamedBy o.level) → l.initOn backend o =
    (.error (.refused (.unsupportedLevel (foldCase (trimBlanks o.level)))), l)
  relative : ∀ (level : Level) path, level.IsNamedBy o.level → o.logDir = some path →
    Path.isAbsolute path = false →
      l.initOn backend o = (.error (.refused (.relativeDirectory path)), l)
  repeated : ∀ active requested, l.active = some active → o.AsksFor requested →
    active.Agrees requested → l.initOn backend o = (.ok (), l)
  refused : ∀ active requested, l.active = some active → o.AsksFor requested →
    ¬active.Agrees requested → l.initOn backend o =
      (.error (.refused (.alreadyActive active.text requested.text)), l)
  started : ∀ requested, l.active = none → o.AsksFor requested →
    (makeTarget l.tree requested.target).1 = .ok () → backend requested = none →
      (l.initOn backend o).1 = .ok () ∧ (l.initOn backend o).2.active = some requested
  unstarted : ∀ requested cause, l.active = none → o.AsksFor requested →
    (makeTarget l.tree requested.target).1 = .ok () → backend requested = some cause →
      (l.initOn backend o).1 = .error (.backend cause) ∧ (l.initOn backend o).2.active = none
  failed : ∀ requested e, l.active = none → o.AsksFor requested →
    (makeTarget l.tree requested.target).1 = .error e →
      (l.initOn backend o).1 = .error (.refused e) ∧ (l.initOn backend o).2.active = none
  traceless : (l.active ≠ none ∨ ∃ e, (l.initOn backend o).1 = .error (.refused e) ∧
    ∀ path cause, e ≠ .directoryNotMade path cause) → (l.initOn backend o).2 = l
  recoverable : ∀ path cause,
    (l.initOn backend o).1 = .error (.refused (.directoryNotMade path cause)) →
      (l.initOn backend o).2.active = none ∧
      ∀ later : LogBackend, (∀ s, later s = none) →
        ((l.initOn backend o).2.initOn later { o with logDir := none }).1 = .ok ()

/-! ## What options ask for -/

namespace LogSettings

variable {o : LogOptions} {s : LogSettings} {level : Level} {path : String} {e : LoggingError}

theorem same_iff (a b : LogSettings) : a.same b = true ↔ a.Agrees b := by
  obtain ⟨v, t⟩ := a
  obtain ⟨v', t'⟩ := b
  rw [same, Bool.and_eq_true, beq_iff_eq]
  constructor
  · rintro ⟨level, target⟩
    refine ⟨level, ?_⟩
    cases t with
    | stderr =>
      cases t' with
      | stderr => exact .stderr
      | directory other => cases target
    | directory path =>
      cases t' with
      | stderr => cases target
      | directory other => exact .directory (beq_iff_eq.mp target)
  · rintro ⟨level, target⟩
    refine ⟨level, ?_⟩
    cases target with
    | stderr => rfl
    | directory components => exact beq_iff_eq.mpr components

theorem ofOptions_of_unnamed (unnamed : ∀ level : Level, ¬level.IsNamedBy o.level) :
    ofOptions o = .error (.unsupportedLevel (foldCase (trimBlanks o.level))) := by
  rw [ofOptions, Level.ofName_of_unnamed unnamed, error_bind]

theorem ofOptions_of_relative (named : level.IsNamedBy o.level) (dir : o.logDir = some path)
    (relative : Path.isAbsolute path = false) :
    ofOptions o = .error (.relativeDirectory path) := by
  rw [ofOptions, Level.ofName_eq_ok_iff.mpr named, ok_bind, dir]
  simp only [relative]
  rfl

theorem ofOptions_of_asksFor (asks : o.AsksFor s) : ofOptions o = .ok s := by
  cases asks with
  | stderr named dir =>
    rw [ofOptions, Level.ofName_eq_ok_iff.mpr named, ok_bind, dir]
    rfl
  | directory named dir absolute =>
    rw [ofOptions, Level.ofName_eq_ok_iff.mpr named, ok_bind, dir]
    simp only [absolute]
    rfl

/-- Options without a level, options with a relative directory, and all others. -/
theorem kinds_of_options (o : LogOptions) :
    (∀ level : Level, ¬level.IsNamedBy o.level) ∨
      (∃ (level : Level) (path : String), level.IsNamedBy o.level ∧ o.logDir = some path ∧
        Path.isAbsolute path = false) ∨
      ∃ s, o.AsksFor s := by
  by_cases unnamed : ∀ level : Level, ¬level.IsNamedBy o.level
  · exact .inl unnamed
  · obtain ⟨level, named⟩ := not_forall_not.mp unnamed
    right
    cases dir : o.logDir with
    | none => exact .inr ⟨_, .stderr named dir⟩
    | some path =>
      cases absolute : Path.isAbsolute path with
      | false => exact .inl ⟨level, path, named, rfl, absolute⟩
      | true => exact .inr ⟨_, .directory named dir absolute⟩

theorem ofOptions_eq_ok_iff : ofOptions o = .ok s ↔ o.AsksFor s := by
  refine ⟨fun read => ?_, ofOptions_of_asksFor⟩
  rcases kinds_of_options o with unnamed | ⟨level, path, named, dir, relative⟩ | ⟨s', asks⟩
  · rw [ofOptions_of_unnamed unnamed] at read
    cases read
  · rw [ofOptions_of_relative named dir relative] at read
    cases read
  · rw [ofOptions_of_asksFor asks] at read
    cases read
    exact asks

/-- Options that ask for nothing are refused before a directory is looked at. -/
theorem ofOptions_error (refused : ofOptions o = .error e) (path cause : String) :
    e ≠ .directoryNotMade path cause := by
  rcases kinds_of_options o with unnamed | ⟨level, path, named, dir, relative⟩ | ⟨s, asks⟩
  · rw [ofOptions_of_unnamed unnamed] at refused
    cases refused
    exact nofun
  · rw [ofOptions_of_relative named dir relative] at refused
    cases refused
    exact nofun
  · rw [ofOptions_of_asksFor asks] at refused
    cases refused

end LogSettings

/-! ## One start -/

namespace Logging

variable {backend : LogBackend} {l : Logging} {o : LogOptions} {s active : LogSettings}
  {e : LoggingError}

theorem makeTarget_error {tree : FileTree} {target : LogTarget}
    (failed : (makeTarget tree target).1 = .error e) :
    ∃ path cause, e = .directoryNotMade path cause := by
  cases target with
  | stderr => cases failed
  | directory path =>
    have failed : (tree.makeAll path).1.mapError
        (fun cause => LoggingError.directoryNotMade path cause.message) = .error e := failed
    cases made : (tree.makeAll path).1 with
    | ok _ =>
      rw [made] at failed
      cases failed
    | error cause =>
      rw [made, mapError_error] at failed
      cases failed
      exact ⟨path, cause.message, rfl⟩

theorem active_record (l : Logging) (event : Event) : (l.record event).active = l.active := by
  cases active : l.active with
  | none => simp [record, active]
  | some s =>
    simp only [record, active]
    split
    · exact active
    · split
      · rfl
      · rfl

theorem start_ok (made : (makeTarget l.tree s.target).1 = .ok ()) :
    (l.start s).1 = .ok () ∧ (l.start s).2.active = some s := by
  simp only [start, made]
  exact ⟨trivial, active_record _ _⟩

theorem start_error (failed : (makeTarget l.tree s.target).1 = .error e) :
    l.start s = (.error e, { l with tree := (makeTarget l.tree s.target).2 }) := by
  simp only [start, failed]

theorem init_of_error (refused : LogSettings.ofOptions o = .error e) :
    l.init o = (.error e, l) := by
  rw [init, refused]

theorem init_of_inactive (inactive : l.active = none) (asks : o.AsksFor s) :
    l.init o = l.start s := by
  simp only [init, LogSettings.ofOptions_of_asksFor asks, inactive]

theorem init_of_agrees (fixed : l.active = some active) (asks : o.AsksFor s)
    (agrees : active.Agrees s) : l.init o = (.ok (), l) := by
  simp only [init, LogSettings.ofOptions_of_asksFor asks, fixed,
    (active.same_iff s).mpr agrees, if_true]

theorem init_of_disagrees (fixed : l.active = some active) (asks : o.AsksFor s)
    (differs : ¬active.Agrees s) :
    l.init o = (.error (.alreadyActive active.text s.text), l) := by
  rw [← LogSettings.same_iff] at differs
  simp only [init, LogSettings.ofOptions_of_asksFor asks, fixed, if_neg differs]

/-! ## One start on a backend -/

theorem startOn_of_willing (willing : backend s = none) :
    l.startOn backend s = ((l.start s).1.mapError .refused, (l.start s).2) := by
  simp only [startOn, willing]

theorem startOn_ok (made : (makeTarget l.tree s.target).1 = .ok ()) (willing : backend s = none) :
    (l.startOn backend s).1 = .ok () ∧ (l.startOn backend s).2.active = some s := by
  obtain ⟨answer, fixed⟩ := start_ok made
  rw [startOn_of_willing willing, answer]
  exact ⟨rfl, fixed⟩

theorem startOn_error (failed : (makeTarget l.tree s.target).1 = .error e) :
    l.startOn backend s
      = (.error (.refused e), { l with tree := (makeTarget l.tree s.target).2 }) := by
  cases willing : backend s with
  | none =>
    rw [startOn_of_willing willing, start_error failed]
    rfl
  | some cause => simp only [startOn, willing, failed]

theorem startOn_unwilling {cause : String} (made : (makeTarget l.tree s.target).1 = .ok ())
    (unwilling : backend s = some cause) :
    l.startOn backend s
      = (.error (.backend cause), { l with tree := (makeTarget l.tree s.target).2 }) := by
  simp only [startOn, unwilling, made]

theorem initOn_of_active (fixed : l.active = some active) :
    l.initOn backend o = ((l.init o).1.mapError .refused, (l.init o).2) := by
  simp only [initOn, fixed]

theorem initOn_of_error (refused : LogSettings.ofOptions o = .error e) :
    l.initOn backend o = (.error (.refused e), l) := by
  cases fixed : l.active with
  | some active =>
    rw [initOn_of_active fixed, init_of_error refused]
    rfl
  | none => simp only [initOn, fixed, refused]

theorem initOn_of_inactive (inactive : l.active = none) (asks : o.AsksFor s) :
    l.initOn backend o = l.startOn backend s := by
  simp only [initOn, LogSettings.ofOptions_of_asksFor asks, inactive]

theorem initOn_of_willing (willing : ∀ s, backend s = none) :
    l.initOn backend o = ((l.init o).1.mapError .refused, (l.init o).2) := by
  cases fixed : l.active with
  | some active => exact initOn_of_active fixed
  | none =>
    cases read : LogSettings.ofOptions o with
    | error e =>
      rw [initOn_of_error read, init_of_error read]
      rfl
    | ok s =>
      have asks := LogSettings.ofOptions_eq_ok_iff.mp read
      rw [initOn_of_inactive fixed asks, init_of_inactive fixed asks,
        startOn_of_willing (willing s)]

theorem initOn_of_agrees (fixed : l.active = some active) (asks : o.AsksFor s)
    (agrees : active.Agrees s) : l.initOn backend o = (.ok (), l) := by
  rw [initOn_of_active fixed, init_of_agrees fixed asks agrees]
  rfl

theorem initOn_of_disagrees (fixed : l.active = some active) (asks : o.AsksFor s)
    (differs : ¬active.Agrees s) :
    l.initOn backend o = (.error (.refused (.alreadyActive active.text s.text)), l) := by
  rw [initOn_of_active fixed, init_of_disagrees fixed asks differs]
  rfl

/-- Once logging is active a start changes nothing, and does not look at directories. -/
theorem initOn_when_active (fixed : l.active = some active) :
    (l.initOn backend o).2 = l ∧ ∀ path cause,
      (l.initOn backend o).1 ≠ .error (.refused (.directoryNotMade path cause)) := by
  cases read : LogSettings.ofOptions o with
  | error e =>
    rw [initOn_of_error read]
    refine ⟨rfl, fun path cause failed => ?_⟩
    cases failed
    exact LogSettings.ofOptions_error read path cause rfl
  | ok s =>
    have asks := LogSettings.ofOptions_eq_ok_iff.mp read
    by_cases agrees : active.Agrees s
    · rw [initOn_of_agrees fixed asks agrees]
      exact ⟨rfl, nofun⟩
    · rw [initOn_of_disagrees fixed asks agrees]
      exact ⟨rfl, nofun⟩

/-- Before logging is active, a start makes it so or fails. -/
theorem initOn_cases (backend : LogBackend) (o : LogOptions) (inactive : l.active = none) :
    (∃ e, LogSettings.ofOptions o = .error e ∧ l.initOn backend o = (.error (.refused e), l)) ∨
    ∃ s, o.AsksFor s ∧
      ((l.initOn backend o).1 = .ok () ∧ (l.initOn backend o).2.active = some s ∨
      ∃ e, (l.initOn backend o).1 = .error e ∧ (l.initOn backend o).2.active = none ∧
        ∀ r, e = .refused r → ∃ path cause, r = .directoryNotMade path cause) := by
  cases read : LogSettings.ofOptions o with
  | error e => exact .inl ⟨e, rfl, initOn_of_error read⟩
  | ok s =>
    have asks := LogSettings.ofOptions_eq_ok_iff.mp read
    refine .inr ⟨s, asks, ?_⟩
    rw [initOn_of_inactive inactive asks]
    cases made : (makeTarget l.tree s.target).1 with
    | error e =>
      rw [startOn_error made]
      refine .inr ⟨_, rfl, inactive, fun r same => ?_⟩
      cases same
      exact makeTarget_error made
    | ok _ =>
      cases willing : backend s with
      | none => exact .inl (startOn_ok made willing)
      | some cause =>
        rw [startOn_unwilling made willing]
        exact .inr ⟨_, rfl, inactive, nofun⟩

/-- Where the directory could not be made, the same level can still go to the error stream. -/
theorem recoverable_of_directoryNotMade {path cause : String}
    (failed : (l.initOn backend o).1 = .error (.refused (.directoryNotMade path cause))) :
    (l.initOn backend o).2.active = none ∧
      ∀ later : LogBackend, (∀ s, later s = none) →
        ((l.initOn backend o).2.initOn later { o with logDir := none }).1 = .ok () := by
  cases fixed : l.active with
  | some active => exact absurd failed ((initOn_when_active fixed).2 path cause)
  | none =>
    rcases initOn_cases backend o fixed with
      ⟨e, read, refused⟩ | ⟨s, asks, ⟨done, _⟩ | ⟨_, _, inactive, _⟩⟩
    · rw [refused] at failed
      cases failed
      exact absurd rfl (LogSettings.ofOptions_error read path cause)
    · rw [failed] at done
      cases done
    · have named : s.level.IsNamedBy o.level := by
        cases asks with
        | stderr named => exact named
        | directory named => exact named
      have asks' : LogOptions.AsksFor { o with logDir := none } ⟨s.level, .stderr⟩ :=
        .stderr named rfl
      refine ⟨inactive, fun later willing => ?_⟩
      rw [initOn_of_inactive inactive asks']
      exact (startOn_ok rfl (willing _)).1

theorem unchanged_of_refused {r : LoggingError} (inactive : l.active = none)
    (refused : (l.initOn backend o).1 = .error (.refused r))
    (other : ∀ path cause, r ≠ .directoryNotMade path cause) : (l.initOn backend o).2 = l := by
  rcases initOn_cases backend o inactive with
    ⟨e, _, same⟩ | ⟨s, _, ⟨done, _⟩ | ⟨e, failed, _, shape⟩⟩
  · rw [same]
  · rw [refused] at done
    cases done
  · rw [refused] at failed
    cases failed
    obtain ⟨path, cause, made⟩ := shape r rfl
    exact absurd made (other path cause)

theorem answers (backend : LogBackend) (l : Logging) (o : LogOptions) : l.Answers backend o where
  willing := initOn_of_willing
  unsupported unnamed := initOn_of_error (LogSettings.ofOptions_of_unnamed unnamed)
  relative level path named dir relative :=
    initOn_of_error (LogSettings.ofOptions_of_relative named dir relative)
  repeated active requested fixed asks agrees := initOn_of_agrees fixed asks agrees
  refused active requested fixed asks differs := initOn_of_disagrees fixed asks differs
  started requested inactive asks made willing := by
    rw [initOn_of_inactive inactive asks]
    exact startOn_ok made willing
  unstarted requested cause inactive asks made unwilling := by
    rw [initOn_of_inactive inactive asks, startOn_unwilling made unwilling]
    exact ⟨rfl, inactive⟩
  failed requested e inactive asks failed := by
    rw [initOn_of_inactive inactive asks, startOn_error failed]
    exact ⟨rfl, inactive⟩
  traceless := by
    cases fixed : l.active with
    | some active => exact fun _ => (initOn_when_active fixed).1
    | none =>
      rintro (active | ⟨r, refused, other⟩)
      · exact absurd rfl active
      · exact unchanged_of_refused fixed refused other
  recoverable path cause failed := recoverable_of_directoryNotMade failed

end Logging

/-! ## All starts of a process -/

section

variable {starts : List LogStart} {a b : LogStart} {l : Logging}

theorem isFirstSuccess_iff :
    IsFirstSuccess starts a ↔ starts.find? (fun a => decide (a.answer = .ok ())) = some a := by
  rw [List.find?_eq_some_iff_append, IsFirstSuccess]
  constructor
  · rintro ⟨before, after, shape, done, none⟩
    exact ⟨by simpa using done, before, after, shape, fun b mem => by simpa using none b mem⟩
  · rintro ⟨done, before, after, shape, none⟩
    exact ⟨before, after, shape, by simpa using done, fun b mem => by simpa using none b mem⟩

theorem IsFirstSuccess.unique (first : IsFirstSuccess starts a)
    (second : IsFirstSuccess starts b) : a = b :=
  Option.some.inj ((isFirstSuccess_iff.mp first).symm.trans (isFirstSuccess_iff.mp second))

theorem IsFirstSuccess.append (first : IsFirstSuccess starts a) (more : List LogStart) :
    IsFirstSuccess (starts ++ more) a := by
  obtain ⟨before, after, shape, done, none⟩ := first
  exact ⟨before, after ++ more, by simp [shape], done, none⟩

theorem LogOptions.AsksFor.unique {o : LogOptions} {s s' : LogSettings} (first : o.AsksFor s)
    (second : o.AsksFor s') : s = s' := by
  rw [← LogSettings.ofOptions_eq_ok_iff] at first second
  exact Except.ok.inj (first.symm.trans second)

/-- What is active is what the first success asked for. -/
theorem Logging.Tries.status (tries : Tries starts l) :
    (l.active = none ∧ ∀ a ∈ starts, a.answer ≠ .ok ()) ∨
      ∃ a s, IsFirstSuccess starts a ∧ a.options.AsksFor s ∧ l.active = some s := by
  induction tries with
  | process tree => exact .inl ⟨rfl, by simp⟩
  | meanwhile l' _ same ih =>
    rw [same]
    exact ih
  | @next starts l backend o _ ih =>
    rcases ih with ⟨inactive, none⟩ | ⟨a, s, first, asks, fixed⟩
    · have failing : (l.initOn backend o).1 ≠ .ok () →
          ∀ a ∈ starts ++ [⟨o, (l.initOn backend o).1⟩], a.answer ≠ .ok () := by
        intro failed a mem
        rcases List.mem_append.mp mem with old | new
        · exact none a old
        · cases List.mem_singleton.mp new
          exact failed
      rcases initOn_cases backend o inactive with
        ⟨e, _, refused⟩ | ⟨s, asks, ⟨done, fixed⟩ | ⟨e, failed, inactive, _⟩⟩
      · exact .inl ⟨by rw [refused]; exact inactive, failing (by rw [refused]; nofun)⟩
      · exact .inr ⟨_, s, ⟨starts, [], rfl, done, none⟩, asks, fixed⟩
      · exact .inl ⟨inactive, failing (by rw [failed]; nofun)⟩
    · rw [(initOn_when_active fixed).1]
      exact .inr ⟨a, s, first.append _, asks, fixed⟩

/-- Logging is inactive until a start succeeds, and from then on it is what that start asked
for. Every start answers accordingly. One that does not make logging active leaves everything as it
was, but for directories it had made before it failed. -/
theorem Logging.starts_once (tries : Tries starts l) :
    (l.active = none ↔ ∀ a ∈ starts, a.answer ≠ .ok ()) ∧
    (∀ a, IsFirstSuccess starts a → ∀ s, l.active = some s ↔ a.options.AsksFor s) ∧
    ∀ backend o, l.Answers backend o := by
  refine ⟨?_, ?_, fun backend => answers backend l⟩
  · rcases tries.status with ⟨inactive, none⟩ | ⟨a, s, ⟨before, after, shape, done, _⟩, _, fixed⟩
    · exact ⟨fun _ => none, fun _ => inactive⟩
    · rw [fixed]
      exact ⟨nofun, fun none => absurd done (none a (by simp [shape]))⟩
  · rintro a first s
    rcases tries.status with ⟨_, none⟩ | ⟨b, s', first', asks, fixed⟩
    · obtain ⟨before, after, shape, done, _⟩ := first
      exact absurd done (none a (by simp [shape]))
    · cases first.unique first'
      rw [fixed, Option.some.injEq]
      constructor
      · rintro rfl
        exact asks
      · exact asks.unique

/-- The starts one after the other, each on its backend. -/
def Logging.initAll : List (LogBackend × LogOptions) → Logging → List LogStart × Logging
  | [], l => ([], l)
  | (backend, o) :: rest, l =>
    let (starts, l') := initAll rest (l.initOn backend o).2
    (⟨o, (l.initOn backend o).1⟩ :: starts, l')

theorem Logging.Tries.initAll (tries : Tries starts l) (os : List (LogBackend × LogOptions)) :
    Tries (starts ++ (Logging.initAll os l).1) (Logging.initAll os l).2 := by
  induction os generalizing starts l with
  | nil =>
    rw [Logging.initAll, List.append_nil]
    exact tries
  | cons start rest ih =>
    have later := ih (tries.next start.1 start.2)
    rw [List.append_assoc] at later
    exact later

/-- A backend that starts with any settings. -/
def LogBackend.willing : LogBackend := fun _ => none

/-- Four starts that fail and one that succeeds. The directory of the third lies below a file,
and the backend of the fourth does not start. -/
def Logging.attempts : List (LogBackend × LogOptions) :=
  [(.willing, { LogOptions.default with level := "loud" }),
    (.willing, { LogOptions.default with logDir := some "logs" }),
    (.willing, { LogOptions.default with logDir := some "/tmp/plain/logs" }),
    (fun _ => some "taken", .default),
    (.willing, { LogOptions.default with level := " Warning\n", logDir := some "/tmp/logs/" })]

theorem Logging.starts_once_attempts :
    ∃ starts l, Tries starts l ∧ (starts.map fun a => decide (a.answer = .ok ())) =
        [false, false, false, false, true] ∧
      l.active = some ⟨.warn, .directory "/tmp/logs/"⟩ ∧
      l.initOn .willing { LogOptions.default with level := "WARN", logDir := some "//tmp/./logs" }
        = (.ok (), l) ∧
      l.initOn .willing .default
        = (.error (.refused (.alreadyActive "warn@/tmp/logs/" "debug@stderr")), l) := by
  have tries := (Tries.process ⟨[["tmp"]], [["tmp", "plain"]]⟩).initAll attempts
  obtain ⟨_, fixed, answers⟩ := starts_once tries
  have named (level : Level) (s : String) (read : (Level.ofName s).toOption = some level) :
      level.IsNamedBy s := Level.ofName_eq_ok_iff.mp (eq_ok_of_toOption read)
  have active := (fixed ⟨{ LogOptions.default with
      level := " Warning\n", logDir := some "/tmp/logs/" }, .ok ()⟩
    (isFirstSuccess_iff.mpr (by decide +kernel)) ⟨.warn, .directory "/tmp/logs/"⟩).mpr
    (.directory (named .warn _ (by decide +kernel)) rfl rfl)
  refine ⟨_, _, tries, by decide +kernel, active, ?_, ?_⟩
  · exact (answers .willing _).repeated _ _ active
      (.directory (named .warn _ (by decide +kernel)) rfl rfl) ⟨rfl, .directory (by decide)⟩
  · exact (answers .willing _).refused _ _ active
      (.stderr (named .debug _ (by decide +kernel)) rfl) (by rintro ⟨⟨⟩, _⟩)

end

end RecordStore
