import RecordStore.Proofs.Session.Invariants
import RecordStore.Proofs.Store.Orderly

/-!
Units and their connections. A unit that has not been disposed of has a connection that is there,
and no other unit has it.
-/
namespace RecordStore

open Sql

namespace World

variable {w : World} {s s' : Store} {n : Nat} {l : Location} {o : StoreOptions}

theorem numbers_of_connect (opened : connect s l o = .ok (n, s')) :
    n = s.nextConnection ∧ s'.numbers = s.numbers ++ [n] := by
  cases l with
  | memory tables =>
    cases opened
    exact ⟨rfl, (s.addFile ⟨none, tables⟩).numbers_connect ..⟩
  | file path =>
    rcases Store.openPath_cases opened with ⟨file, _, made⟩ | ⟨place, made⟩
    · cases made
      exact ⟨rfl, s.numbers_connect ..⟩
    · cases made
      exact ⟨rfl, (s.addFile ⟨some place, []⟩).numbers_connect ..⟩

theorem numbers_prepareConnection (w : World) (n : Nat) (before : Option String) :
    (∃ e w', w.prepareConnection n before = (.error e, w') ∧
        w'.store.numbers = w.store.numbers.filter (· != n)) ∨
      ∃ w', w.prepareConnection n before = (.ok (), w') ∧
        w'.store.numbers = w.store.numbers := by
  cases before with
  | none => exact .inr ⟨w, rfl, rfl⟩
  | some sql =>
    have ran := (Store.steady_numbers w.store.numbers).runBatch rfl n sql
    rw [prepareConnection]
    revert ran
    rcases w.store.runBatch n sql with ⟨e | _, s⟩ <;> intro ran
    · exact .inl ⟨_, _, rfl, (s.numbers_close n).trans (congrArg _ ran)⟩
    · exact .inr ⟨_, rfl, ran⟩

theorem numbers_begin (w : World) (n : Nat) (o : StoreOptions) :
    (∃ e w', UnitOfWork.begin w n o = (.error e, w') ∧
        w'.store.numbers = w.store.numbers.filter (· != n)) ∨
      ∃ w', UnitOfWork.begin w n o = (.ok ⟨some n, .ongoing, none, o.filterMode⟩, w') ∧
        w'.store.numbers = w.store.numbers := by
  have ran := (Store.steady_numbers w.store.numbers).runCommand rfl n (.begin o.transactionMode)
  rw [UnitOfWork.begin]
  revert ran
  rcases w.store.runCommand n (.begin o.transactionMode) with ⟨e | _, s⟩ <;> intro ran
  · exact .inl ⟨_, _, rfl, (s.numbers_close n).trans (congrArg _ ran)⟩
  · exact .inr ⟨_, rfl, ran⟩

/-- A unit that begins adds one connection, and it has that one. A unit that does not begin
leaves none behind. -/
theorem numbers_beginUnit (numbered : w.store.IsNumbered) (l : Location) (o : StoreOptions)
    (before : Option String) :
    (∃ e w', w.beginUnit l o before = (.error e, w') ∧
        w'.store.numbers = w.store.numbers) ∨
      ∃ u w', w.beginUnit l o before = (.ok u, w') ∧
        u.connection = some w.store.nextConnection ∧
        w'.store.numbers = w.store.numbers ++ [w.store.nextConnection] := by
  have fresh : (w.store.numbers ++ [w.store.nextConnection]).filter
      (· != w.store.nextConnection) = w.store.numbers := by
    have old := numbered.not_mem_numbers
    simp only [List.filter_append, bne_self_eq_false, Bool.false_eq_true, not_false_eq_true,
      List.filter_cons_of_neg, List.filter_nil, List.append_nil, List.filter_eq_self]
    exact fun m mem => bne_iff_ne.mpr fun same => old (same ▸ mem)
  rcases w.openDatabase_cases l o with
    ⟨e, w₁, opened, same | ⟨n, s, connected, closed⟩⟩ | ⟨n, s, w₁, opened, connected, _, rfl⟩
  · exact .inl ⟨e, w₁, by rw [beginUnit, opened], congrArg Store.numbers same⟩
  · obtain ⟨rfl, numbers⟩ := numbers_of_connect connected
    exact .inl ⟨e, w₁, by rw [beginUnit, opened], by rw [closed, s.numbers_close, numbers, fresh]⟩
  obtain ⟨rfl, numbers⟩ := numbers_of_connect connected
  rw [beginUnit, opened]
  dsimp only
  rcases w₁.numbers_prepareConnection w.store.nextConnection before with
    ⟨e, w₂, prepared, closed⟩ | ⟨w₂, prepared, same⟩
  · rw [prepared]
    exact .inl ⟨e, w₂, rfl, by rw [closed, numbers, fresh]⟩
  rw [prepared]
  dsimp only
  rcases w₂.numbers_begin w.store.nextConnection o with ⟨e, w₃, began, closed⟩ | ⟨w₃, began, kept⟩
  · rw [began]
    exact .inl ⟨_, w₃, rfl, by rw [closed, same, numbers, fresh]⟩
  · rw [began]
    exact .inr ⟨_, w₃, rfl, rfl, by rw [kept, same, numbers]⟩

end World

namespace UnitOfWork

variable {u : UnitOfWork} {w : World}

/-- Nothing but its disposal takes the connection of a unit away. -/
theorem connection_request {request : Request} (goes_on : request ≠ .dispose) :
    (request.run u w).unit.connection = u.connection := by
  have remembered {β : Type} {s : UnitStep β} (remembers : u.Remembers s) :
      s.unit.connection = u.connection := by
    rw [Remembers] at remembers
    rw [remembers]
  cases request with
  | call c => exact remembered (c.remembers u w)
  | execute operation entity statement => exact remembered (remembers_execute ..)
  | query operation entity ofRow statement => exact remembered (remembers_query ..)
  | commit =>
    simp only [Request.run, commit]
    split
    · rfl
    · rfl
    · split <;> rfl
  | rollback =>
    simp only [Request.run, rollback]
    split
    · rfl
    · split <;> rfl
  | dispose => exact absurd rfl goes_on

theorem dispose_connection (u : UnitOfWork) (w : World) : (u.dispose w).1.connection = none := by
  rw [dispose]
  split
  · rename_i disconnected
    exact disconnected
  · rfl

theorem mem_numbers_dispose {n : Nat} (mem : n ∈ w.store.numbers)
    (other : u.connection ≠ some n) : n ∈ (u.dispose w).2.store.numbers := by
  rw [dispose]
  split
  · exact mem
  · rename_i m connected
    have apart : n ≠ m := fun same => other (same ▸ connected)
    have rolled := (Store.steady_numbers w.store.numbers).rollbackQuietly (w := w) rfl m
    simp only [World.store_log, Store.numbers_close]
    refine List.mem_filter.mpr ⟨?_, bne_iff_ne.mpr apart⟩
    split
    · rw [rolled]
      exact mem
    · exact mem

end UnitOfWork

namespace Session

variable {s s' : Session}

/-- The connections of units are there, and different units have different ones. -/
structure IsAttached (s : Session) : Prop where
  there : ∀ name u n, s.unit? name = some u → u.connection = some n → n ∈ s.world.store.numbers
  apart : ∀ name other u v n, s.unit? name = some u → s.unit? other = some v →
    u.connection = some n → v.connection = some n → name = other

theorem isAttached_ofStore (start : Store) : (ofStore start).IsAttached := by
  constructor
  · intro name u n found
    simp [ofStore, unit?] at found
  · intro name other u v n found
    simp [ofStore, unit?] at found

/-- One name gets a unit, or loses it. The connections of the others stay. -/
theorem IsAttached.update (attached : s.IsAttached) (name : String) (unit : Option UnitOfWork)
    (units : s'.unit? = Function.update s.unit? name unit)
    (stay : ∀ n ∈ s.world.store.numbers,
      (∀ u, s.unit? name = some u → u.connection ≠ some n) → n ∈ s'.world.store.numbers)
    (joins : ∀ u n, unit = some u → u.connection = some n → n ∈ s'.world.store.numbers ∧
      ∀ other v, other ≠ name → s.unit? other = some v → v.connection ≠ some n) :
    s'.IsAttached := by
  have here {u : UnitOfWork} (found : s'.unit? name = some u) : unit = some u := by
    rwa [units, Function.update_self] at found
  have elsewhere {other : String} {u : UnitOfWork} (different : other ≠ name)
      (found : s'.unit? other = some u) : s.unit? other = some u := by
    rwa [units, Function.update_of_ne different] at found
  constructor
  · intro other u n found connected
    by_cases same : other = name
    · subst same
      exact (joins u n (here found) connected).1
    · have before := elsewhere same found
      refine stay n (attached.there other u n before connected) fun v at_name taken => ?_
      exact same (attached.apart other name u v n before at_name connected taken)
  · intro one other u v n first second connected connected'
    by_cases same : one = name
    · subst same
      by_cases twice : other = one
      · exact twice.symm
      · exact absurd connected' ((joins u n (here first) connected).2 other v twice
          (elsewhere twice second))
    · by_cases twice : other = name
      · subst twice
        exact absurd connected ((joins v n (here second) connected').2 one u same
          (elsewhere same first))
      · exact attached.apart one other u v n (elsewhere same first) (elsewhere twice second)
          connected connected'

theorem mem_numbers_drop {name : String} {n : Nat} (mem : n ∈ s.world.store.numbers)
    (other : ∀ u, s.unit? name = some u → u.connection ≠ some n) :
    n ∈ (s.drop name).2.world.store.numbers := by
  rw [drop]
  cases found : s.unit? name with
  | none => exact mem
  | some u => exact UnitOfWork.mem_numbers_dispose mem (other u found)

theorem IsAttached.drop (attached : s.IsAttached) (name : String) :
    (s.drop name).2.IsAttached :=
  attached.update name none (s.unit?_drop name) (fun _ mem other => mem_numbers_drop mem other)
    fun _ _ absent => absurd absent (Option.some_ne_none _).symm

theorem IsAttached.begin (attached : s.IsAttached) (numbered : s.world.store.IsNumbered)
    (name : String) (l : Location) (o : StoreOptions) (before : Option String) :
    (s.begin name l o before).2.IsAttached := by
  rw [Session.begin]
  rcases World.numbers_beginUnit numbered l o before with
    ⟨e, w, began, same⟩ | ⟨u, w, began, connected, grown⟩
  · rw [began]
    refine ⟨fun other v n found connected => ?_, attached.apart⟩
    exact same ▸ attached.there other v n found connected
  · rw [began]
    have fresh := numbered.not_mem_numbers
    -- the unit that loses its name has an older connection than the one that gets it
    have older {other : String} {v : UnitOfWork} (found : s.unit? other = some v) :
        v.connection ≠ some s.world.store.nextConnection :=
      fun taken => fresh (attached.there other v _ found taken)
    refine attached.update name (some u) ?_ (fun n mem other => ?_) fun v n same taken => ?_
    · rw [unit?_put, unit?_drop, Function.update_idem]
      rfl
    · refine mem_numbers_drop (s := { s with world := w }) ?_ other
      exact grown ▸ List.mem_append_left _ mem
    · cases same
      cases connected.symm.trans taken
      refine ⟨mem_numbers_drop (s := { s with world := w }) ?_ fun v found => older found,
        fun other v _ found => older found⟩
      exact grown ▸ List.mem_append_right _ (List.mem_singleton_self _)

theorem IsAttached.ask (attached : s.IsAttached) (name : String) (request : Request) :
    ((Action.ask name request).run s).2.IsAttached := by
  cases found : s.unit? name with
  | none =>
    rw [Action.run_ask_none found]
    exact attached
  | some u =>
    rw [Action.run_ask_some found]
    refine attached.update name (some _) (unit?_put ..) (fun n mem other => ?_) ?_
    · by_cases last : request = .dispose
      · subst last
        exact UnitOfWork.mem_numbers_dispose mem (other u found)
      · have kept := (Store.steady_numbers s.world.store.numbers).request rfl last u
        exact kept ▸ mem
    · rintro _ n ⟨⟩ connected
      by_cases last : request = .dispose
      · subst last
        cases (u.dispose_connection s.world).symm.trans connected
      · have kept := (Store.steady_numbers s.world.store.numbers).request rfl last u
        rw [UnitOfWork.connection_request last] at connected
        refine ⟨kept ▸ attached.there name u n found connected, ?_⟩
        intro other v different at_other taken
        exact different (attached.apart other name v u n at_other found taken connected)

end Session

end RecordStore
