import Mathlib.Logic.Function.Basic
import RecordStore.Proofs.Session.Calls
import RecordStore.Session

/-!
Histories of units that share a file. A history keeps the session, what each unit was asked
and answered since it began, and the units that have committed, in the order of their commits.
-/
namespace RecordStore

structure Exchange : Type 1 where
  call : Call
  answer : Except RepositoryError call.Answer

structure Transcript : Type 1 where
  options : StoreOptions
  exchanges : List Exchange

def callAll : List Call → UnitOfWork → World → List Exchange × UnitOfWork × World
  | [], u, w => ([], u, w)
  | call :: rest, u, w =>
    let s := call.run u w
    let (exchanges, u, w) := callAll rest s.unit s.world
    (⟨call, s.answer⟩ :: exchanges, u, w)

namespace Transcript

def calls (t : Transcript) : List Call := t.exchanges.map Exchange.call

def extended (t : Transcript) (x : Exchange) : Transcript :=
  { t with exchanges := t.exchanges ++ [x] }

/-- The unit once more and on its own: it begins, is asked the same calls, commits and is
disposed of. None if it does not begin or does not commit. Between its answers and the world that
it leaves stand the tables that its calls have come to, as it sees them before it commits. -/
def again (path : String) (t : Transcript) (w : World) :
    Option (Transcript × Option Tables × World) :=
  match w.beginUnit (.file path) t.options none with
  | (.error _, _) => none
  | (.ok u, w) =>
    let (exchanges, u, w) := callAll t.calls u w
    let s := u.commit w
    match s.answer with
    | .error _ => none
    | .ok () => some (⟨t.options, exchanges⟩, u.tables? w, (s.unit.dispose s.world).2)

end Transcript

/-- Serial execution: one unit after the other, each with the answers of its transcript. What its
calls have come to is what it leaves in the file. -/
inductive Serially (path : String) (file : Nat) (start : World) : List Transcript → World → Prop
  | nil : Serially path file start [] start
  | next {ts : List Transcript} {t : Transcript} {w w' : World} :
      Serially path file start ts w →
      t.again path w = some (t, some (w'.store.committed file), w') →
      Serially path file start (ts ++ [t]) w'

inductive Step : Type 1
  | begin (name : String) (options : StoreOptions)
  | call (name : String) (call : Call)
  | commit (name : String)
  | rollback (name : String)
  | dispose (name : String)
  | drop (name : String)

structure History : Type 1 where
  session : Session
  transcript : String → Transcript
  committed : List Transcript

namespace History

def start (w : World) : History := ⟨⟨w, []⟩, fun _ => ⟨.default, []⟩, []⟩

def step (path : String) (h : History) : Step → History
  | .begin name options =>
    match h.session.begin name (.file path) options none with
    | (.error _, s) => { h with session := s }
    | (.ok (), s) =>
      { h with session := s, transcript := Function.update h.transcript name ⟨options, []⟩ }
  | .call name call =>
    match h.session.act name call.run with
    | none => h
    | some (answer, s) =>
      { h with
        session := s
        transcript :=
          Function.update h.transcript name ((h.transcript name).extended ⟨call, answer⟩) }
  | .commit name =>
    match h.session.act name UnitOfWork.commit with
    | none => h
    | some (.error _, s) => { h with session := s }
    | some (.ok (), s) =>
      { h with session := s, committed := h.committed ++ [h.transcript name] }
  | .rollback name =>
    match h.session.act name UnitOfWork.rollback with
    | none => h
    | some (_, s) => { h with session := s }
  | .dispose name =>
    match h.session.act name Session.disposing with
    | none => h
    | some (_, s) => { h with session := s }
  | .drop name => { h with session := (h.session.drop name).2 }

def run (path : String) (h : History) (steps : List Step) : History :=
  steps.foldl (step path) h

end History

/-! ## Units by name -/

namespace Session

theorem unit?_put (s : Session) (name : String) (u : UnitOfWork) (w : World) :
    (s.put name u w).unit? = Function.update s.unit? name (some u) := by
  funext other
  by_cases same : other = name
  · simp [unit?, put, List.lookup_append, lookup_filter, same]
  · have apart : (other == name) = false := beq_eq_false_iff_ne.mpr same
    simp [unit?, put, List.lookup_append, lookup_filter, same, List.lookup_cons, apart]

theorem unit?_drop (s : Session) (name : String) :
    (s.drop name).2.unit? = Function.update s.unit? name none := by
  unfold drop
  cases found : s.unit? name with
  | none => simp [← found]
  | some u =>
    funext other
    by_cases same : other = name
    · simp [unit?, lookup_filter, same]
    · simp [unit?, lookup_filter, same]

theorem act_none {α : Type} {s : Session} {name : String} (found : s.unit? name = none)
    (f : UnitOfWork → World → UnitStep α) : s.act name f = none := by
  rw [act, found]
  rfl

theorem act_some {α : Type} {s : Session} {name : String} {u : UnitOfWork}
    (found : s.unit? name = some u) (f : UnitOfWork → World → UnitStep α) :
    s.act name f = some ((f u s.world).answer,
      s.put name (f u s.world).unit (f u s.world).world) := by
  rw [act, found]
  rfl

end Session

end RecordStore
