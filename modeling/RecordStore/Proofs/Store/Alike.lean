import RecordStore.Proofs.Store.Failing
import RecordStore.Proofs.Store.Vetted

/-!
Two stores that differ in their rows only. If they are asked texts that differ in their constants
only and end alike, they tell the same, and again differ in their rows only.
-/
namespace RecordStore

open Sql

def SameLength {α β : Type} (as : List α) (bs : List β) : Prop := as.length = bs.length

namespace StoreError

/-- The engine gave both the same code, or gave none to either. -/
def SameCode (e e' : StoreError) : Prop := e.code? = e'.code?

/-- What is told of two failures: the same, but for the column that has no value, for a row that
cannot be read, and for a text that is quoted. -/
inductive ToldAlike (inline : Prop) : StoreError → StoreError → Prop
  | same (e : StoreError) : ToldAlike inline e e
  | missing (table a b : String) :
      ToldAlike inline (.failed (.missingValue table a)) (.failed (.missingValue table b))
  | unread {e e' : StoreError} : e.code? = none → e'.code? = none → ToldAlike inline e e'
  | quoted {e e' : StoreError} : inline → e.IsGeneral → e'.IsGeneral →
      e.quotesText = true ∨ e'.quotesText = true → ToldAlike inline e e'

namespace ToldAlike

variable {inline inline' : Prop} {e e' : StoreError}

theorem mono (told : e.ToldAlike inline e') (weaker : inline → inline') :
    e.ToldAlike inline' e' := by
  cases told with
  | same => exact .same _
  | missing table a b => exact .missing table a b
  | unread left right => exact .unread left right
  | quoted here left right quotes => exact .quoted (weaker here) left right quotes

theorem isRefusal_of_uncoded {e : StoreError} (uncoded : e.code? = none) :
    e.isRefusal = false := by
  cases e with
  | failed => cases uncoded
  | _ => rfl

theorem ofMedium?_of_uncoded {e : StoreError} (uncoded : e.code? = none) :
    e.ofMedium? = none := by
  cases e with
  | failed => cases uncoded
  | _ => rfl

/-- Both statements have come as far as to change rows, or neither has. -/
theorem isRefusal (told : e.ToldAlike inline e') : e.isRefusal = e'.isRefusal := by
  cases told with
  | same => rfl
  | missing => rfl
  | unread left right => rw [isRefusal_of_uncoded left, isRefusal_of_uncoded right]
  | quoted _ left right _ => rw [left.isRefusal, right.isRefusal]

/-- The medium has refused both, for the same reason, or neither. -/
theorem ofMedium? (told : e.ToldAlike inline e') : e.ofMedium? = e'.ofMedium? := by
  cases told with
  | same => rfl
  | missing => rfl
  | unread left right => rw [ofMedium?_of_uncoded left, ofMedium?_of_uncoded right]
  | quoted _ left right _ => rw [left.ofMedium?, right.ofMedium?]

end ToldAlike

end StoreError

namespace Store

variable {s s' : Store} {n : Nat} {c c' : Connection} {a b : Statement} {e e' : StoreError}
  {mode : FilterMode}

theorem vet_of_emptied (same : s.emptied = s'.emptied) (conn : c.emptied = c'.emptied)
    (sql : String) (given : Nat) : s'.vet c' sql given = s.vet c sql given := by
  rw [← vet_emptied, ← same, ← conn, vet_emptied]

theorem isJournaled_of_emptied (same : s.emptied = s'.emptied) (conn : c.emptied = c'.emptied)
    (sql : String) (given : Nat) : s'.isJournaled c' sql given = s.isJournaled c sql given := by
  rw [isJournaled, isJournaled, vet_of_emptied same conn]

theorem afterFailure_of_toldAlike {inline : Prop} {journaled journaled' : Bool}
    (told : e.ToldAlike inline e') (same : e.ofMedium?.isSome = true → journaled = journaled')
    (s : Store) (n : Nat) (c : Connection) :
    s.afterFailure n c journaled e = s.afterFailure n c journaled' e' := by
  rw [afterFailure, afterFailure, ← told.ofMedium?, told.isRefusal]
  cases asked : e.ofMedium? with
  | none => rfl
  | some m => rw [same (by rw [asked]; rfl)]

namespace Fails

variable {sql : String} {given : Nat}

/-- Rows have no part in how a text can fail. -/
theorem of_emptied (fails : s'.Fails c' sql given e) (same : s.emptied = s'.emptied)
    (conn : c.emptied = c'.emptied) : s.Fails c sql given e := by
  have vets := vet_of_emptied same conn sql given
  cases fails with
  | objection vetted => exact .objection (vets ▸ vetted)
  | locked => exact .locked
  | refused vetted refuses => exact .refused (vets ▸ vetted) refuses
  | medium e vetted => exact .medium e (vets ▸ vetted)

/-- No lock and no constraint has the code of a text that is not understood. -/
theorem vet_of_isGeneral (fails : s.Fails c sql given e) (general : e.IsGeneral) :
    s.vet c sql given = .error e := by
  cases fails with
  | objection vetted => exact vetted
  | locked => cases general
  | refused _ refuses => exact absurd (Option.some.inj general) refuses.code_ne.2
  | medium m => cases m <;> cases general

variable (about : IsAboutRows sql) (counted : (parameterMarkers (scan sql)).length = given)
  (fails : s.Fails c sql given e)

include about counted fails

theorem coded : e.code? ≠ none := by
  cases fails with
  | objection vetted =>
    rw [(general_vet about counted s c).of_error e vetted]
    nofun
  | locked => nofun
  | refused => nofun
  | medium => nofun

theorem eq_locked (busy : e.code? = some .busy) : e = .failed .locked := by
  cases fails with
  | objection vetted => cases busy.symm.trans ((general_vet about counted s c).of_error e vetted)
  | locked => rfl
  | refused _ refuses => exact absurd (Option.some.inj busy) refuses.code_ne.1
  | medium m => cases m <;> cases busy

theorem exists_refuses {l : TableLayout} {f : Failure} (refuses : l.Refuses f)
    (code : e.code? = some f.code) :
    ∃ v f', e = .failed f' ∧ s.vet c sql given = .ok v ∧ v.layout.Refuses f' := by
  obtain ⟨not_busy, not_general⟩ := refuses.code_ne
  cases fails with
  | objection vetted =>
    have general := (general_vet about counted s c).of_error e vetted
    exact absurd (Option.some.inj (code.symm.trans general)) not_general
  | locked => exact absurd (Option.some.inj code).symm not_busy
  | refused vetted refuses => exact ⟨_, _, rfl, vetted, refuses⟩
  | medium m => exact absurd (Option.some.inj code).symm (refuses.code_ne_medium m)

theorem eq_medium {m : MediumError} (code : e.code? = some (Failure.medium m).code) :
    e = .failed (.medium m) ∧ ∃ v, s.vet c sql given = .ok v := by
  cases fails with
  | objection vetted =>
    have general := (general_vet about counted s c).of_error e vetted
    cases m <;> cases code.symm.trans general
  | locked => cases m <;> cases code
  | refused _ refuses => exact absurd (Option.some.inj code) (refuses.code_ne_medium m)
  | medium m' vetted =>
    have same : m' = m := by
      cases m <;> cases m' <;> first | rfl | cases code
    exact ⟨by rw [same], _, vetted⟩

end Fails

/-- What two statements fail with under one code is told alike, whichever rows there are. If the
medium has refused both, both keep a journal of their own or neither does. -/
theorem toldAlike_of_fails (about : IsAboutRows a.sql) (about' : IsAboutRows b.sql)
    (vetted : Statement.VettedAlike mode a b) (first : s.Fails c a.sql a.parameters.length e)
    (second : s.Fails c b.sql b.parameters.length e') (code : e.SameCode e') :
    e.ToldAlike (mode = .inline) e' ∧ (e.ofMedium?.isSome = true →
      s.isJournaled c a.sql a.parameters.length = s.isJournaled c b.sql b.parameters.length) := by
  have vets := vetted.vets s c
  cases first with
  | objection refused =>
    have general := (general_vet about vetted.counted s c).of_error e refused
    have general' : e'.IsGeneral := code.symm.trans general
    refine ⟨?_, by simp [general.ofMedium?]⟩
    rw [refused, second.vet_of_isGeneral general'] at vets
    rcases vets with same | ⟨inline, ⟨_, ⟨⟩, quotes⟩ | ⟨_, ⟨⟩, quotes⟩⟩
    · cases same
      exact .same e
    · exact .quoted inline general general' (.inl quotes)
    · exact .quoted inline general general' (.inr quotes)
  | locked =>
    rw [second.eq_locked about' vetted.counted' code.symm]
    exact ⟨.same _, nofun⟩
  | refused passed refuses =>
    obtain ⟨v', f', rfl, passed', refuses'⟩ :=
      second.exists_refuses about' vetted.counted' refuses code.symm
    refine ⟨?_, by simp [refuses.ofMedium?]⟩
    rw [passed, passed'] at vets
    rcases vets with same | ⟨_, ⟨_, ⟨⟩, _⟩ | ⟨_, ⟨⟩, _⟩⟩
    cases same
    rcases refuses.eq_or_missing refuses' (Option.some.inj code) with rfl | ⟨_, _, rfl, rfl⟩
    · exact .same _
    · exact .missing _ _ _
  | medium m passed =>
    obtain ⟨rfl, v', passed'⟩ := second.eq_medium about' vetted.counted' code.symm
    refine ⟨.same _, fun _ => ?_⟩
    rw [passed, passed'] at vets
    rcases vets with same | ⟨_, ⟨_, ⟨⟩, _⟩ | ⟨_, ⟨⟩, _⟩⟩
    cases same
    rw [isJournaled_of_vet passed, isJournaled_of_vet passed']

theorem alike_query {α : Type} {ofRow : ResultRow → Except StoreError α}
    (reads : ∀ row, FailsOnly (·.code? = none) (ofRow row)) (same : s.emptied = s'.emptied)
    (select : ∃ rest, a.sql.toList = "SELECT".toList ++ ' ' :: rest)
    (select' : ∃ rest, b.sql.toList = "SELECT".toList ++ ' ' :: rest)
    (vetted : Statement.VettedAlike mode a b)
    (ends : EndsAlike SameLength StoreError.SameCode
      ((s.query n a.sql a.parameters).1.bind (·.mapM ofRow))
      ((s'.query n b.sql b.parameters).1.bind (·.mapM ofRow))) :
    EndsAlike SameLength (StoreError.ToldAlike (mode = .inline))
        ((s.query n a.sql a.parameters).1.bind (·.mapM ofRow))
        ((s'.query n b.sql b.parameters).1.bind (·.mapM ofRow)) ∧
      (s.query n a.sql a.parameters).2.emptied = (s'.query n b.sql b.parameters).2.emptied := by
  have about : ∀ {sql : String}, (∃ rest, sql.toList = "SELECT".toList ++ ' ' :: rest) →
      IsAboutRows sql := fun ⟨rest, text⟩ => ⟨"SELECT", by decide, rest, text⟩
  rcases connections_of_emptied same n with ⟨conn, conn'⟩ | ⟨c, c', conn, conn', equal⟩
  · simp only [query, run, conn, conn']
    exact ⟨.error (.same _), same⟩
  obtain ⟨rest, text⟩ := select
  obtain ⟨rest', text'⟩ := select'
  unfold query at ends ⊢
  rcases run_select conn text a.parameters with
    ⟨columns, rows, r, ran, left⟩ | ⟨e, r, ran, fails, left⟩
  · rcases run_select conn' text' b.parameters with
      ⟨columns', rows', r', ran', left'⟩ | ⟨e', r', ran', fails', left'⟩
    · rw [ran, ran'] at ends ⊢
      refine ⟨?_, by rw [left, left', same, equal]⟩
      exact ends.mono_of_fails (.mapM reads _) (.mapM reads _) fun _ _ => .unread
    · rw [ran, ran'] at ends
      obtain ⟨e, failed, code⟩ := ends.to_error
      have uncoded := (FailsOnly.mapM reads _).of_error e failed
      exact absurd (code.symm.trans uncoded)
        (fails'.coded (about ⟨rest', text'⟩) vetted.counted')
  · rcases run_select conn' text' b.parameters with
      ⟨columns', rows', r', ran', left'⟩ | ⟨e', r', ran', fails', left'⟩
    · rw [ran, ran'] at ends
      obtain ⟨e', failed, code⟩ := ends.of_error
      have uncoded := (FailsOnly.mapM reads _).of_error e' failed
      exact absurd (code.trans uncoded) (fails.coded (about ⟨rest, text⟩) vetted.counted)
    · rw [ran, ran'] at ends ⊢
      obtain - | code := ends
      exact ⟨.error (toldAlike_of_fails (about ⟨rest, text⟩) (about ⟨rest', text'⟩) vetted fails
        (fails'.of_emptied same equal) code).1, by rw [left, left', same, equal]⟩

theorem alike_execute (same : s.emptied = s'.emptied) (named : s.IsNamed)
    (change : IsChange a.sql) (change' : IsChange b.sql) (vetted : Statement.VettedAlike mode a b)
    (ends : EndsAlike Eq StoreError.SameCode (s.execute n a.sql a.parameters).1
      (s'.execute n b.sql b.parameters).1) :
    EndsAlike Eq (StoreError.ToldAlike (mode = .inline)) (s.execute n a.sql a.parameters).1
        (s'.execute n b.sql b.parameters).1 ∧
      (s.execute n a.sql a.parameters).2.emptied = (s'.execute n b.sql b.parameters).2.emptied := by
  rcases connections_of_emptied same n with ⟨conn, conn'⟩ | ⟨c, c', conn, conn', equal⟩
  · simp only [execute, run, conn, conn']
    exact ⟨.error (.same _), same⟩
  have named' : s'.IsNamed := named.of_emptied same
  unfold execute at ends ⊢
  rcases run_change conn (named.visible conn) change vetted.counted with
    ⟨count, r, ran, left⟩ | ⟨e, r, ran, fails, left⟩
  · rcases run_change conn' (named'.visible conn') change' vetted.counted' with
      ⟨count', r', ran', left'⟩ | ⟨e', r', ran', fails', left'⟩
    · rw [ran, ran'] at ends ⊢
      obtain counts | - := ends
      exact ⟨.ok counts, by rw [left, left', same, equal]⟩
    · rw [ran, ran'] at ends
      cases ends
  · rcases run_change conn' (named'.visible conn') change' vetted.counted' with
      ⟨count', r', ran', left'⟩ | ⟨e', r', ran', fails', left'⟩
    · rw [ran, ran'] at ends
      cases ends
    · rw [ran, ran'] at ends ⊢
      obtain - | code := ends
      obtain ⟨told, journaled⟩ := toldAlike_of_fails change.isAboutRows change'.isAboutRows vetted
        fails (fails'.of_emptied same equal) code
      refine ⟨.error told, ?_⟩
      rw [left, left', isJournaled_of_emptied same equal,
        afterFailure_of_toldAlike told journaled, same, equal]

end Store

end RecordStore
