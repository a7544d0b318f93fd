import RecordStore.Proofs.Session.Persistence
import RecordStore.Proofs.Session.Replies

/-!
What a unit says has failed. It is the first request that failed in the store since the unit
began, through everything that is asked of it later, whether the unit is still open or not. Only
an aborted commit takes it away: the commit reports it, and then the unit says nothing.
-/
namespace RecordStore

variable {β : Type} {u u₀ : UnitOfWork} {w w₀ w₁ : World} {asked : List Asked}

/-- What a step makes of the failure that its unit remembers. -/
inductive UnitOfWork.PassesOn (u : UnitOfWork) (s : UnitStep β) : Prop
  | reported {f : FailedStatement} : u.state = .ongoing → u.failure = some f →
      s.answer = .error (.commitAborted f) → s.unit.failure = none →
      s.unit.state ≠ .ongoing → PassesOn u s
  | kept : (∀ f, s.answer ≠ .error (.commitAborted f)) →
      s.unit.failure = u.failure.or (failureOf? s.answer) → PassesOn u s

/-- What a unit says has failed, after the requests that were made of it. -/
inductive UnitOfWork.Recalls (u : UnitOfWork) (asked : List Asked) : Prop
  | first : (∀ a ∈ asked, ∀ f, a.answer ≠ .error (.commitAborted f)) →
      u.failure = asked.findSome? Asked.failure? → Recalls u asked
  | reported {f : FailedStatement} : u.failure = none → u.state ≠ .ongoing →
      asked.findSome? Asked.failure? = some f →
      (∃ a ∈ asked, a.answer = .error (.commitAborted f)) →
      (∀ a ∈ asked, ∀ g, a.answer = .error (.commitAborted g) → g = f) → Recalls u asked

/-! ## One request -/

/-- Nothing but a commit answers that it was aborted. -/
theorem Call.not_aborted (call : Call) (u : UnitOfWork) (w : World) (f : FailedStatement) :
    (call.run u w).answer ≠ .error (.commitAborted f) := by
  rw [(call.gives_reply u w).answer, reply]
  intro aborted
  cases prepared : call.prepare u.filterMode with
  | error e =>
    rw [prepared] at aborted
    cases Except.error.inj aborted
    cases (call.isEarly_of_prepare u.filterMode).of_error _ prepared
  | ok built =>
    obtain ⟨d, statement⟩ := built
    simp only [prepared, UnitOfWork.reply] at aborted
    split at aborted
    · cases aborted
    · cases asked : (call.ask statement w.store _).1 with
      | ok answer =>
        rw [asked] at aborted
        cases aborted
      | error e =>
        rw [asked] at aborted
        cases aborted

namespace UnitOfWork

theorem not_aborted_observe (operation : Operation) (entity : String)
    (result : Except StoreError β) (f : FailedStatement) :
    (u.observe w operation entity result).answer ≠ .error (.commitAborted f) := by
  cases result with
  | ok b => simp [observe]
  | error e => simp [observe]

theorem not_aborted_execute (operation : Operation) (entity : String) (statement : Statement)
    (f : FailedStatement) :
    (u.execute w operation entity statement).answer ≠ .error (.commitAborted f) := by
  unfold execute
  split
  · simp [refuse]
  · exact not_aborted_observe operation entity _ f

theorem not_aborted_query (operation : Operation) (entity : String)
    (ofRow : ResultRow → Except StoreError β) (statement : Statement) (f : FailedStatement) :
    (u.query w operation entity ofRow statement).answer ≠ .error (.commitAborted f) := by
  unfold query
  split
  · simp [refuse]
  · exact not_aborted_observe operation entity _ f

theorem passesOn_commit (u : UnitOfWork) (w : World) : u.PassesOn (u.commit w) := by
  unfold commit
  split
  case h_1 =>
    exact .kept (by simp [refuse]) (by simp [refuse, failureOf?, RepositoryError.failure?])
  case h_2 n f opened failed =>
    have ongoing : u.state = .ongoing := by
      by_contra ended
      rw [closed_of_not_ongoing ended] at opened
      cases opened
    exact .reported ongoing failed rfl rfl (by simp)
  case h_3 n opened clean =>
    split
    · exact .kept (by simp) (by simp [failureOf?])
    · exact .kept (by simp) (by simp [failureOf?, RepositoryError.failure?])

theorem passesOn_rollback (u : UnitOfWork) (w : World) : u.PassesOn (u.rollback w) := by
  unfold rollback
  split
  · exact .kept (by simp [refuse]) (by simp [refuse, failureOf?, RepositoryError.failure?])
  · dsimp only
    split
    · exact .kept (by simp) (by simp [failureOf?])
    · exact .kept (by simp) (by simp [failureOf?, RepositoryError.failure?])

theorem failure_dispose (u : UnitOfWork) (w : World) :
    (u.dispose w).1.failure = u.failure := by
  unfold dispose
  split <;> rfl

theorem ended_dispose (ended : u.state ≠ .ongoing) : (u.dispose w).1.state ≠ .ongoing := by
  intro still
  rw [dispose_ongoing still] at still
  exact ended still

theorem passesOn_dispose (u : UnitOfWork) (w : World) :
    u.PassesOn (Session.disposing u w) := by
  refine .kept (by simp [Session.disposing]) ?_
  simp [Session.disposing, failure_dispose, failureOf?]

theorem Remembers.failure {s : UnitStep β} (remembers : u.Remembers s) :
    s.unit.failure = u.failure.or (failureOf? s.answer) := by
  rw [Remembers] at remembers
  rw [remembers]

theorem passesOn (request : Request) (u : UnitOfWork) (w : World) :
    u.PassesOn (request.run u w) := by
  cases request with
  | call call => exact .kept (call.not_aborted u w) (call.remembers u w).failure
  | execute operation entity statement =>
    exact .kept (not_aborted_execute operation entity statement)
      (remembers_execute operation entity statement).failure
  | query operation entity ofRow statement =>
    exact .kept (not_aborted_query operation entity ofRow statement)
      (remembers_query operation entity ofRow statement).failure
  | commit => exact passesOn_commit u w
  | rollback => exact passesOn_rollback u w
  | dispose => exact passesOn_dispose u w

/-- A unit that has ended remembers what it remembered, and does not open again. -/
theorem ended_stays (ended : u.state ≠ .ongoing) (request : Request) (w : World) :
    (request.run u w).unit.failure = u.failure ∧ (request.run u w).unit.state ≠ .ongoing := by
  by_cases disposes : request = .dispose
  · subst disposes
    exact ⟨failure_dispose u w, ended_dispose ended⟩
  · obtain ⟨e, gives⟩ := gives_closed (closed_of_not_ongoing ended) request disposes w
    rw [gives.unit]
    exact ⟨rfl, ended⟩

/-! ## All requests -/

theorem Recalls.next (recalls : u.Recalls asked) (request : Request) (w : World) :
    (request.run u w).unit.Recalls (asked ++ [⟨request, (request.run u w).answer⟩]) := by
  have step := passesOn request u w
  cases recalls with
  | first spared remembered =>
    cases step with
    | @reported f ongoing failed answer failure state =>
      refine .reported failure state ?_ ⟨⟨request, _⟩, by simp, answer⟩ fun a mem g aborted => ?_
      · rw [List.findSome?_append, ← remembered, failed]
        rfl
      · rcases List.mem_append.mp mem with old | new
        · exact absurd aborted (spared a old g)
        · cases List.mem_singleton.mp new
          rw [answer] at aborted
          cases aborted
          rfl
    | kept other failure =>
      refine .first (fun a mem => ?_) ?_
      · rcases List.mem_append.mp mem with old | new
        · exact spared a old
        · cases List.mem_singleton.mp new
          exact other
      · rw [failure, remembered, List.findSome?_append]
        simp [Asked.failure?]
  | @reported f none ended first told only =>
    obtain ⟨failure, state⟩ := ended_stays ended request w
    obtain ⟨a, mem, answer⟩ := told
    refine .reported (failure.trans none) state ?_ ⟨a, List.mem_append_left _ mem, answer⟩
      fun b mem g aborted => ?_
    · rw [List.findSome?_append, first]
      rfl
    · rcases List.mem_append.mp mem with old | new
      · exact only b old g aborted
      · cases List.mem_singleton.mp new
        cases step with
        | reported ongoing => exact absurd ongoing ended
        | kept other => exact absurd aborted (other g)

theorem Lives.recalls (fresh : u₀.failure = none) (lives : u₀.Lives asked u) :
    u.Recalls asked := by
  induction lives with
  | begun => exact .first (by simp) fresh
  | next request w _ ih => exact ih.next request w

theorem failure_of_begin {n : Nat} {o : StoreOptions} (begun : begin w₀ n o = (.ok u₀, w₁)) :
    u₀.failure = none := by
  unfold begin at begun
  split at begun
  · cases begun
  · cases (Prod.mk.inj begun).1
    rfl

/-- Whatever has been asked of a unit since it began, and whether or not it is still open, it
remembers the first request that failed in the store, as long as no commit was aborted. An
aborted commit reports that failure, and from then on the unit remembers none. -/
theorem failure_since_begin {n : Nat} {o : StoreOptions}
    (begun : begin w₀ n o = (.ok u₀, w₁)) (lives : u₀.Lives asked u) :
    ((∀ a ∈ asked, ∀ f, a.answer ≠ .error (.commitAborted f)) →
      (∀ f, u.failure = some f ↔ IsFirstFailure asked f) ∧
      (u.failure = none ↔ ∀ a ∈ asked, ∀ f, a.answer ≠ .error (.execution f))) ∧
    ∀ a ∈ asked, ∀ f, a.answer = .error (.commitAborted f) →
      IsFirstFailure asked f ∧ u.failure = none ∧ u.state ≠ .ongoing := by
  cases lives.recalls (failure_of_begin begun) with
  | first spared remembered =>
    rw [remembered]
    exact ⟨fun _ => ⟨fun f => isFirstFailure_iff, noFailure_iff⟩,
      fun a mem f aborted => absurd aborted (spared a mem f)⟩
  | reported none ended first told only =>
    obtain ⟨b, old, reported⟩ := told
    refine ⟨fun spared => absurd reported (spared b old _), fun a mem f aborted => ?_⟩
    cases only a mem f aborted
    exact ⟨isFirstFailure_iff.mp first, none, ended⟩

/-- Two texts that are no statements, and then the unit is given up. -/
def abandoned : List Request :=
  [.execute .create "T" ⟨"SELEC", []⟩, .execute .delete "T" ⟨"nope", []⟩, .rollback, .dispose]

theorem failure_since_begin_abandoned :
    ∃ u₀ w₁, begin privateWorld 0 .default = (.ok u₀, w₁) ∧
      ∃ asked u f, u₀.Lives asked u ∧ u.state = .disposed ∧
        (∀ a ∈ asked, ∀ f, a.answer ≠ .error (.commitAborted f)) ∧
        u.failure = some f ∧ f.operation = .create ∧ IsFirstFailure asked f := by
  obtain ⟨u₀, w₁, begun, disposed, f, remembered, operation⟩ :
      ∃ u₀ w₁, begin privateWorld 0 .default = (.ok u₀, w₁) ∧
        (askAll abandoned u₀ w₁).2.1.state = .disposed ∧
        ∃ f, (askAll abandoned u₀ w₁).2.1.failure = some f ∧ f.operation = .create :=
    ⟨_, _, rfl, by decide +kernel, ⟨.create, "T", .located (.nearToken "SELEC") "SELEC" 0⟩,
      by decide +kernel, rfl⟩
  have lives := (Lives.begun : u₀.Lives [] u₀).askAll abandoned w₁
  obtain ⟨recalls, reported⟩ := failure_since_begin begun lives
  have spared : ∀ a ∈ [] ++ (askAll abandoned u₀ w₁).1, ∀ f,
      a.answer ≠ .error (.commitAborted f) := by
    intro a mem f aborted
    have none := (reported a mem f aborted).2.1
    rw [remembered] at none
    cases none
  exact ⟨u₀, w₁, begun, _, _, f, lives, disposed, spared, remembered, operation,
    ((recalls spared).1 f).mp remembered⟩

/-- After an aborted commit there has been a failure since the begin, and the unit does not say
so. -/
theorem failure_reported_away :
    ∃ u₀ w₁, begin privateWorld 0 .default = (.ok u₀, w₁) ∧
      ∃ asked u f, u₀.Lives asked u ∧ IsFirstFailure asked f ∧ u.failure = none := by
  obtain ⟨u₀, w₁, begun, f, first, none⟩ :
      ∃ u₀ w₁, begin privateWorld 0 .default = (.ok u₀, w₁) ∧
        ∃ f, (askAll [.execute .create "T" ⟨"SELEC", []⟩, .commit] u₀ w₁).1.findSome?
            Asked.failure? = some f ∧
          (askAll [.execute .create "T" ⟨"SELEC", []⟩, .commit] u₀ w₁).2.1.failure = none :=
    ⟨_, _, rfl, ⟨.create, "T", .located (.nearToken "SELEC") "SELEC" 0⟩, by decide +kernel,
      by decide +kernel⟩
  have lives := (Lives.begun : u₀.Lives [] u₀).askAll
    [.execute .create "T" ⟨"SELEC", []⟩, .commit] w₁
  exact ⟨u₀, w₁, begun, _, _, f, lives, isFirstFailure_iff.mp first, none⟩

end UnitOfWork

end RecordStore
