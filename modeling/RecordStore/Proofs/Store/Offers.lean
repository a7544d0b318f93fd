import RecordStore.Proofs.Store.Clauses
import RecordStore.Store.Way

/-!
What offers say. Every offer of a clause is true of each row for which the clause is true,
and the values it asks for are operands of tests of the clause.
-/
namespace RecordStore

open Sql

def Relation.accepts : Relation → Ordering → Bool
  | .eq, o => o == .eq
  | .lt, o => o == .lt
  | .le, o => o != .gt
  | .gt, o => o == .gt
  | .ge, o => o != .lt

theorem Relation.accepts_join {r s j : Relation} (joined : r.join? s = some j) {o : Ordering}
    (h : r.accepts o = true ∨ s.accepts o = true) : j.accepts o = true := by
  revert joined h
  cases r <;> cases s <;> cases o <;> cases j <;> decide

theorem Relation.eq_of_join_eq {r s : Relation} (joined : r.join? s = some .eq) :
    r = .eq ∧ s = .eq := by
  revert joined
  cases r <;> cases s <;> decide

theorem Relation.accepts_of_compare {op : CompareOp} {r : Relation} {o : Ordering}
    (h : ofCompare op = some r) (accepts : op.accepts o = true) : r.accepts o = true := by
  revert h accepts
  cases op <;> cases r <;> cases o <;> decide

section

variable {t : TableLayout} {parameters : List Value} {r : Row} {tests : List Test}

def Row.orderTo? (t : TableLayout) (parameters : List Value) (r : Row) (place : ColumnPlace)
    (v : Operand) : Option Ordering :=
  (r.valueAt place).storedOrder? ((t.affinityAt place).operand (v.value parameters))

namespace Offer

def Says (t : TableLayout) (parameters : List Value) (r : Row) : Offer → Prop
  | .relation place how v =>
    ∃ o, r.orderTo? t parameters place v = some o ∧ how.accepts o = true
  | .oneOf place values _ => ∃ v ∈ values, r.orderTo? t parameters place v = some .eq
  | _ => True

def Asks (t : TableLayout) (tests : List Test) (place : ColumnPlace) (v : Operand) : Prop :=
  ∃ name, Test.compare name .eq v ∈ tests ∧ t.place? name.name = some place

def IsAsked (t : TableLayout) (tests : List Test) : Offer → Prop
  | .relation place .eq v => Asks t tests place v
  | .oneOf place values _ => ∀ v ∈ values, Asks t tests place v
  | _ => True

theorem Asks.mono {more : List Test} {place : ColumnPlace} {v : Operand}
    (asks : Asks t tests place v) (sub : tests ⊆ more) : Asks t more place v := by
  obtain ⟨name, mem, at_place⟩ := asks
  exact ⟨name, sub mem, at_place⟩

theorem IsAsked.mono {more : List Test} {o : Offer} (asked : o.IsAsked t tests)
    (sub : tests ⊆ more) : o.IsAsked t more := by
  cases o with
  | relation place how v =>
    cases how with
    | eq => exact Asks.mono asked sub
    | lt | le | gt | ge => trivial
  | oneOf place values source => exact fun v hv => (asked v hv).mono sub
  | null | notNull | aboveNull | alternatives | row | constant => trivial

theorem join_cases {a b o : Offer} (joined : a.join? b = some o) :
    ∃ place v how how' j, a = .relation place how v ∧ b = .relation place how' v ∧
      how.join? how' = some j ∧ o = .relation place j v := by
  cases a <;> cases b
  case relation.relation place how v place' how' v' =>
    simp only [join?] at joined
    split at joined
    · rename_i same
      obtain ⟨j, hj, rfl⟩ := Option.map_eq_some_iff.mp joined
      obtain ⟨rfl, rfl⟩ := same
      exact ⟨place, v, how, how', j, rfl, rfl, hj, rfl⟩
    · cases joined
  all_goals cases joined

theorem Says.join {a b o : Offer} (joined : a.join? b = some o)
    (h : a.Says t parameters r ∨ b.Says t parameters r) : o.Says t parameters r := by
  obtain ⟨place, v, how, how', j, rfl, rfl, hj, rfl⟩ := join_cases joined
  rcases h with ⟨order, at_place, accepts⟩ | ⟨order, at_place, accepts⟩
  · exact ⟨order, at_place, Relation.accepts_join hj (.inl accepts)⟩
  · exact ⟨order, at_place, Relation.accepts_join hj (.inr accepts)⟩

theorem IsAsked.join {a b o : Offer} (joined : a.join? b = some o)
    (asked : a.IsAsked t tests) : o.IsAsked t tests := by
  obtain ⟨place, v, how, how', j, rfl, rfl, hj, rfl⟩ := join_cases joined
  cases j with
  | eq =>
    obtain ⟨rfl, rfl⟩ := Relation.eq_of_join_eq hj
    exact asked
  | lt | le | gt | ge => trivial

theorem equality_eq {o : Offer} {place : ColumnPlace} {v : Operand}
    (h : o.equality? = some (place, v)) : o = .relation place .eq v := by
  cases o with
  | relation c how w =>
    cases how with
    | eq =>
      cases Option.some.inj h
      rfl
    | lt | le | gt | ge => cases h
  | oneOf | null | notNull | aboveNull | alternatives | row | constant => cases h

end Offer

theorem joinedOffers_cases {alternatives : List (List Offer)} {o : Offer}
    (h : o ∈ joinedOffers alternatives) :
    ∃ first second a b, alternatives = [first, second] ∧ a ∈ first ∧ b ∈ second ∧
      a.join? b = some o := by
  unfold joinedOffers at h
  split at h
  · rename_i first second
    split at h
    · cases h
    · obtain ⟨a, ha, h⟩ := List.mem_flatMap.mp h
      obtain ⟨b, hb, h⟩ := List.mem_filterMap.mp h
      exact ⟨first, second, a, b, rfl, ha, hb, h⟩
  · cases h

theorem equalities_cases {alternatives : List (List Offer)}
    {equalities : List (ColumnPlace × Operand)}
    (each : (alternatives.mapM fun offers =>
      match offers with
      | [o] => o.equality?
      | _ => none) = some equalities) :
    alternatives = equalities.map fun e => [.relation e.1 .eq e.2] := by
  induction alternatives generalizing equalities with
  | nil =>
    cases each
    rfl
  | cons offers alternatives ih =>
    rw [List.mapM_cons] at each
    obtain ⟨e, first, each⟩ := Option.bind_eq_some_iff.mp each
    obtain ⟨es, rest, each⟩ := Option.bind_eq_some_iff.mp each
    cases Option.some.inj each
    split at first
    · rw [Offer.equality_eq first, List.map_cons, ← ih rest]
    · cases first

theorem valueList_cases {source : Nat} {alternatives : List (List Offer)} {o : Offer}
    (h : valueList? source alternatives = some o) :
    ∃ place values, o = .oneOf place values source ∧
      alternatives = values.map fun v => [.relation place .eq v] := by
  obtain ⟨equalities, each, h⟩ := Option.bind_eq_some_iff.mp h
  obtain ⟨⟨place, _⟩, _, h⟩ := Option.bind_eq_some_iff.mp h
  dsimp only at h
  split at h
  · rename_i same
    cases Option.some.inj h
    refine ⟨place, equalities.map Prod.snd, rfl, ?_⟩
    rw [equalities_cases each, List.map_map]
    refine List.map_congr_left fun e he => ?_
    have column : e.1 = place := by simpa using List.all_eq_true.mp same e he
    rw [column]
    rfl
  · cases h

/-- A term that is true of a row offers what is true of it. -/
theorem Scope.offer_says (s : Scope) {term : Term}
    (holds : term.holds (Test.holds s.layout parameters r) = true) :
    (s.offer term).Says s.layout parameters r := by
  cases term with
  | any as => trivial
  | test q =>
    simp only [offer, offerOfTest]
    split
    · trivial
    · rename_i place at_place
      cases q with
      | compare name op v =>
        simp only
        split
        · rename_i how compared
          rw [Test.column] at at_place
          simp only [Term.holds, Test.holds, Test.truth, Test.compareTruth, at_place, beq_iff_eq]
            at holds
          obtain ⟨o, order, accepts⟩ := Option.map_eq_some_iff.mp holds
          exact ⟨o, order, Relation.accepts_of_compare compared accepts⟩
        · trivial
      | isNull name | isNotNull name =>
        simp only
        split <;> trivial

theorem Scope.offer_isAsked (s : Scope) (term : Term) :
    (s.offer term).IsAsked s.layout term.tests := by
  cases term with
  | any as => trivial
  | test q =>
    simp only [offer, offerOfTest]
    split
    · trivial
    · rename_i place at_place
      cases q with
      | compare name op v =>
        cases op with
        | eq => exact ⟨name, by simp [Term.tests], at_place⟩
        | ne | lt | gt => trivial
      | isNull name | isNotNull name =>
        simp only
        split <;> trivial

mutual

theorem Term.furtherOffers_say (s : Scope) (place : Nat) (term : Term)
    (holds : term.holds (Test.holds s.layout parameters r) = true) :
    ∀ o ∈ term.furtherOffers s place, o.Says s.layout parameters r := by
  intro o ho
  cases term with
  | test q =>
    simp only [furtherOffers] at ho
    split at ho
    · cases List.mem_singleton.mp ho
      trivial
    · cases ho
  | any as =>
    obtain ⟨offers, mem, say⟩ := Term.offersOfEach_say s as holds
    simp only [furtherOffers] at ho
    split at ho
    · rcases List.mem_append.mp ho with joined | listed
      · obtain ⟨first, second, a, b, alternatives, ha, hb, hj⟩ := joinedOffers_cases joined
        rw [alternatives] at mem
        simp only [List.mem_cons, List.not_mem_nil, or_false] at mem
        rcases mem with rfl | rfl
        · exact Offer.Says.join hj (.inl (say a ha))
        · exact Offer.Says.join hj (.inr (say b hb))
      · obtain ⟨column, values, rfl, alternatives⟩ :=
          valueList_cases (Option.mem_toList.mp listed)
        rw [alternatives] at mem
        obtain ⟨v, hv, rfl⟩ := List.mem_map.mp mem
        obtain ⟨order, at_place, accepts⟩ := say _ (List.mem_singleton_self _)
        cases order with
        | eq => exact ⟨v, hv, at_place⟩
        | lt | gt => cases accepts
    · cases ho

theorem Term.furtherOffersFrom_say (s : Scope) (place : Nat) (ts : List Term)
    (holds : Term.allHold (Test.holds s.layout parameters r) ts = true) :
    ∀ o ∈ Term.furtherOffersFrom s place ts, o.Says s.layout parameters r := by
  intro o ho
  cases ts with
  | nil => cases ho
  | cons t ts =>
    obtain ⟨first, others⟩ := Bool.and_eq_true_iff.mp holds
    rcases List.mem_append.mp ho with later | own
    · exact Term.furtherOffersFrom_say s (place + 1) ts others o later
    · exact Term.furtherOffers_say s place t first o own

theorem Term.offersOfEach_say (s : Scope) (cs : List (List Term))
    (holds : Term.someHold (Test.holds s.layout parameters r) cs = true) :
    ∃ offers ∈ Term.offersOfEach s cs, ∀ o ∈ offers, o.Says s.layout parameters r := by
  cases cs with
  | nil => cases holds
  | cons c cs =>
    rcases Bool.or_eq_true_iff.mp holds with first | later
    · refine ⟨_, List.mem_cons_self .., fun o ho => ?_⟩
      rcases List.mem_append.mp ho with own | further
      · obtain ⟨term, mem, rfl⟩ := List.mem_map.mp own
        exact s.offer_says (Term.allHold_iff.mp first term mem)
      · exact Term.furtherOffersFrom_say s 0 c first o further
    · obtain ⟨offers, mem, say⟩ := Term.offersOfEach_say s cs later
      exact ⟨offers, List.mem_cons_of_mem _ mem, say⟩

end

mutual

theorem Term.furtherOffers_isAsked (s : Scope) (place : Nat) (term : Term) :
    ∀ o ∈ term.furtherOffers s place, o.IsAsked s.layout term.tests := by
  intro o ho
  cases term with
  | test q =>
    simp only [furtherOffers] at ho
    split at ho
    · cases List.mem_singleton.mp ho
      trivial
    · cases ho
  | any as =>
    have asked := Term.offersOfEach_isAsked s as
    simp only [furtherOffers] at ho
    split at ho
    · rcases List.mem_append.mp ho with joined | listed
      · obtain ⟨first, second, a, b, alternatives, ha, _, hj⟩ := joinedOffers_cases joined
        rw [alternatives] at asked
        exact (asked first (List.mem_cons_self ..) a ha).join hj
      · obtain ⟨column, values, rfl, alternatives⟩ :=
          valueList_cases (Option.mem_toList.mp listed)
        rw [alternatives] at asked
        exact fun v hv => asked _ (List.mem_map_of_mem hv) _ (List.mem_singleton_self _)
    · cases ho

theorem Term.furtherOffersFrom_isAsked (s : Scope) (place : Nat) (ts : List Term) :
    ∀ o ∈ Term.furtherOffersFrom s place ts, o.IsAsked s.layout (Term.testsOf ts) := by
  intro o ho
  cases ts with
  | nil => cases ho
  | cons t ts =>
    rcases List.mem_append.mp ho with later | own
    · exact (Term.furtherOffersFrom_isAsked s (place + 1) ts o later).mono
        (List.subset_append_right ..)
    · exact (Term.furtherOffers_isAsked s place t o own).mono (List.subset_append_left ..)

theorem Term.offersOfEach_isAsked (s : Scope) (cs : List (List Term)) :
    ∀ offers ∈ Term.offersOfEach s cs, ∀ o ∈ offers,
      o.IsAsked s.layout (Term.testsOfEach cs) := by
  intro offers mem o ho
  cases cs with
  | nil => cases mem
  | cons c cs =>
    rcases List.mem_cons.mp mem with rfl | later
    · have first : o.IsAsked s.layout (Term.testsOf c) := by
        rcases List.mem_append.mp ho with own | further
        · obtain ⟨term, mem, rfl⟩ := List.mem_map.mp own
          exact (s.offer_isAsked term).mono fun q hq => Term.mem_testsOf.mpr ⟨term, mem, hq⟩
        · exact Term.furtherOffersFrom_isAsked s 0 c o further
      exact first.mono (List.subset_append_left ..)
    · exact (Term.offersOfEach_isAsked s cs offers later o ho).mono
        (List.subset_append_right ..)

end

/-- All that a clause offers is true of every row for which the clause is true. -/
theorem Scope.allOffers_say (s : Scope) {c : Clause}
    (holds : c.holds s.layout parameters r = true) :
    ∀ o ∈ s.allOffers c, o.Says s.layout parameters r := by
  obtain ⟨_, mem, say⟩ := Term.offersOfEach_say s [c] (by
    rw [Term.someHold_iff]
    exact ⟨c, List.mem_singleton_self c, holds⟩)
  cases List.mem_singleton.mp mem
  exact say

theorem Scope.allOffers_isAsked (s : Scope) (c : Clause) :
    ∀ o ∈ s.allOffers c, o.IsAsked s.layout (Term.testsOf c) := by
  intro o ho
  have asked := Term.offersOfEach_isAsked s [c] _ (List.mem_singleton_self _) o ho
  rwa [Term.testsOfEach, Term.testsOfEach, List.append_nil] at asked

end

end RecordStore
