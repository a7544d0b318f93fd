import Mathlib.Data.List.Nodup
import RecordStore.Proofs.Store.Offers
import RecordStore.Store.Access

/-!
Which rows a condition selects. Whatever access is chosen, it visits every row for which the
condition is true, once, so the choice decides about the order alone.
-/
namespace RecordStore

open Sql

namespace KeyDemand

def values? : KeyDemand → Option (List Operand)
  | .equal v => some [v]
  | .among vs => some vs
  | .above | .below => none

end KeyDemand

/-- Values that the row key is one of wherever the clause is true, all of them operands of
its tests. -/
structure IsKeyList (t : TableLayout) (parameters : List Value) (c : Clause)
    (values : List Operand) : Prop where
  among : ∀ r : Row, c.holds t parameters r = true →
    ∃ v ∈ values, r.orderTo? t parameters .key v = some .eq
  asked : ∀ v ∈ values, Offer.Asks t (Term.testsOf c) .key v

theorem Scope.keyTerm_values (s : Scope) (parameters : List Value) {c : Clause} {k : KeyTerm}
    (mem : k ∈ s.keyTerms c) {values : List Operand} (demand : k.demand.values? = some values) :
    IsKeyList s.layout parameters c values := by
  obtain ⟨⟨o, place⟩, ho, made⟩ := List.mem_filterMap.mp mem
  dsimp only at made
  have offered : o ∈ s.allOffers c := List.fst_mem_of_mem_zipIdx ho
  have asked := s.allOffers_isAsked c o offered
  have say (r : Row) (holds : c.holds s.layout parameters r = true) :=
    s.allOffers_say holds o offered
  unfold KeyTerm.ofOffer at made
  split at made
  · cases Option.some.inj made
    cases Option.some.inj demand
    refine ⟨fun r holds => ?_, fun v hv => List.mem_singleton.mp hv ▸ asked⟩
    obtain ⟨order, at_key, accepts⟩ := say r holds
    cases order with
    | eq => exact ⟨_, List.mem_singleton_self _, at_key⟩
    | lt | gt => cases accepts
  · cases Option.some.inj made
    dsimp only at demand
    split at demand <;> cases demand
  · cases Option.some.inj made
    cases Option.some.inj demand
    exact ⟨say, asked⟩
  · cases made

theorem Way.keys_of_mem_all {offers : List Offer} {terms : List KeyTerm} {w : Way}
    (mem : w ∈ Way.all offers terms) {values : List Operand} (keys : w.keys = some values) :
    ∃ k ∈ terms, k.demand.values? = some values := by
  obtain ⟨plain, made, rfl⟩ := List.mem_map.mp mem
  obtain ⟨k, hk, begun⟩ := List.mem_flatMap.mp made
  replace keys : plain.keys = some values := keys
  refine ⟨k, hk, ?_⟩
  unfold beginningWith at begun
  split at begun
  · rename_i v demand
    cases List.mem_singleton.mp begun
    rw [demand]
    exact keys
  · rename_i vs demand
    cases List.mem_singleton.mp begun
    rw [demand]
    exact keys
  · cases List.mem_singleton.mp begun
    cases keys
  · rcases List.mem_cons.mp begun with rfl | both
    · cases keys
    · obtain ⟨l, _, rfl⟩ := List.mem_map.mp both
      cases keys

def Choice.IsFor (t : TableLayout) (parameters : List Value) (c : Clause) : Choice → Prop
  | .scan => True
  | .keys values => IsKeyList t parameters c values
  | .split alternatives others => Term.any alternatives ∈ c ∧ ∀ u ∈ others, u ∈ c

theorem foldl_pick_mem {α : Type} (better : α → α → Bool) (xs : List α) (x : α) :
    xs.foldl (fun best next => if better next best then next else best) x ∈ x :: xs := by
  induction xs generalizing x with
  | nil => exact List.mem_singleton_self x
  | cons y ys ih =>
    have picked := ih (if better y x then y else x)
    rw [List.foldl_cons]
    rcases List.mem_cons.mp picked with first | later
    · rw [first]
      split <;> simp
    · simp [later]

theorem Scope.choice_isFor (s : Scope) (parameters : List Value) (c : Clause) :
    (s.choice c).IsFor s.layout parameters c := by
  have picked := foldl_pick_mem (fun next best => next.1.isBetter best.1)
    (s.byKeys c ++ s.bySplit c) (s.scan c)
  unfold choice
  generalize (s.byKeys c ++ s.bySplit c).foldl _ (s.scan c) = best at picked
  rcases List.mem_cons.mp picked with rfl | mem
  · trivial
  · rcases List.mem_append.mp mem with keys | split
    · obtain ⟨w, hw, rfl⟩ := List.mem_map.mp keys
      dsimp only
      split
      · trivial
      · rename_i values found
        obtain ⟨k, hk, demand⟩ := Way.keys_of_mem_all hw found
        exact s.keyTerm_values parameters hk demand
    · obtain ⟨⟨term, place⟩, mem, made⟩ := List.mem_filterMap.mp split
      have within : term ∈ c := List.fst_mem_of_mem_zipIdx mem
      cases term with
      | test q => cases made
      | any alternatives =>
        obtain ⟨e, _, rfl⟩ := Option.map_eq_some_iff.mp made
        exact ⟨within, fun u hu => List.mem_of_mem_eraseIdx (List.mem_filter.mp hu).1⟩

theorem Value.storedOrder_integer_comm (i : Int64) (v : Value) :
    (Value.integer i).storedOrder? v = some .eq ↔ v.storedOrder? (.integer i) = some .eq := by
  cases v with
  | null | text s | blob bytes => simp [storedOrder?]
  | integer j =>
    simp only [storedOrder?, Option.some.injEq, Std.LawfulEqCmp.compare_eq_iff_eq]
    exact eq_comm
  | real x =>
    simp only [storedOrder?, Option.map_eq_some_iff]
    constructor
    · exact fun h => ⟨.eq, h, rfl⟩
    · rintro ⟨o, h, swapped⟩
      cases o with
      | eq => exact h
      | lt | gt => cases swapped

namespace Table

variable {t : Table} {parameters : List Value}

/-- Whatever equals a row key in a test of the condition is found as that key. Only the real
that equals the least key is not. -/
def FindsKeys (t : Table) (parameters : List Value) (tests : List Test) : Prop :=
  ∀ r ∈ t.rows, ∀ v, Offer.Asks t.layout tests .key v →
    r.orderTo? t.layout parameters .key v = some .eq → (v.value parameters).toKey? = some r.key

theorem FindsKeys.mono {tests fewer : List Test} (finds : t.FindsKeys parameters tests)
    (sub : fewer ⊆ tests) : t.FindsKeys parameters fewer :=
  fun r hr v asks equal => finds r hr v (asks.mono sub) equal

theorem mem_lookUp {c : Clause} {values : List Operand}
    (finds : t.FindsKeys parameters (Term.testsOf c))
    (list : IsKeyList t.layout parameters c values) {r : Row} (mem : r ∈ t.rows)
    (holds : c.holds t.layout parameters r = true) :
    r ∈ t.lookUp (values.map (Operand.value parameters)) := by
  refine List.mem_filter.mpr ⟨mem, ?_⟩
  have equal_iff (v : Operand) : r.orderTo? t.layout parameters .key v = some .eq ↔
      (v.value parameters).numeric.storedOrder? (.integer r.key) = some .eq :=
    Value.storedOrder_integer_comm r.key _
  obtain ⟨v, hv, equal⟩ := list.among r holds
  dsimp only
  cases found : (values.map (Operand.value parameters)).reverse.find? fun v =>
      v.numeric.storedOrder? (.integer r.key) == some .eq with
  | none =>
    have none_equal := List.find?_eq_none.mp found (v.value parameters)
      (List.mem_reverse.mpr (List.mem_map_of_mem hv))
    exact absurd ((equal_iff v).mp equal) (by simpa using none_equal)
  | some x =>
    obtain ⟨w, hw, rfl⟩ := List.mem_map.mp (List.mem_reverse.mp (List.mem_of_find?_eq_some found))
    have at_key : r.orderTo? t.layout parameters .key w = some .eq :=
      (equal_iff w).mpr (by simpa using List.find?_some found)
    simpa using finds r mem w (list.asked w hw) at_key

theorem visited_subset (a : Access) : t.visited parameters a ⊆ t.rows := by
  induction a with
  | nothing => exact List.nil_subset _
  | scan => exact fun r hr => hr
  | keys values => exact fun r hr => (List.mem_filter.mp hr).1
  | orElse c first rest ihf ihr =>
    intro r hr
    rcases List.mem_append.mp hr with hf | hr
    · exact ihf (List.mem_filter.mp hf).1
    · exact ihr (List.mem_filter.mp hr).1

theorem visited_nodup (distinct : (t.rows.map Row.key).Nodup) (a : Access) :
    (t.visited parameters a).Nodup := by
  have rows : t.rows.Nodup := distinct.of_map
  induction a with
  | nothing => exact List.nodup_nil
  | scan => exact rows
  | keys values => exact rows.filter _
  | orElse c first rest ihf ihr =>
    refine (ihf.filter _).append (ihr.filter _) fun r hf hr => ?_
    have apart := (List.mem_filter.mp hr).2
    rw [Bool.not_eq_true', List.any_eq_false] at apart
    exact apart r hf (beq_self_eq_true r.key)

theorem mem_visitAfter (distinct : (t.rows.map Row.key).Nodup) {first rest : List Row}
    (inFirst : first ⊆ t.rows) {r : Row} (row : r ∈ t.rows) (mem : r ∈ first ∨ r ∈ rest) :
    r ∈ visitAfter first rest := by
  rcases mem with hf | hr
  · exact List.mem_append_left _ hf
  · by_cases seen : first.any (·.key == r.key) = true
    · obtain ⟨q, hq, same⟩ := List.any_eq_true.mp seen
      have key : q.key = r.key := by simpa using same
      have := List.inj_on_of_nodup_map distinct (inFirst hq) row key
      exact List.mem_append_left _ (this ▸ hq)
    · exact List.mem_append_right _ (List.mem_filter.mpr ⟨hr, by simpa using seen⟩)

theorem mem_visited_alternatives (distinct : (t.rows.map Row.key).Nodup) (s : Scope)
    (fuel : Nat) (others : Clause) {alternatives : List Clause} {a : Clause}
    (mem : a ∈ alternatives) {r : Row} (row : r ∈ t.rows)
    (holds : Clause.holds t.layout parameters r (a ++ others) = true)
    (visits : r ∈ t.visited parameters (s.accessWithin fuel (a ++ others))) :
    r ∈ t.visited parameters (alternatives.foldr
      (fun a rest => .orElse (a ++ others) (s.accessWithin fuel (a ++ others)) rest)
      .nothing) := by
  induction alternatives with
  | nil => cases mem
  | cons b alternatives ih =>
    refine mem_visitAfter distinct
      (fun q hq => visited_subset _ (List.mem_filter.mp hq).1) row ?_
    rcases List.mem_cons.mp mem with rfl | later
    · exact .inl (List.mem_filter.mpr ⟨visits, holds⟩)
    · exact .inr (ih later)

/-- The access to the rows of a clause visits each row for which the clause is true. -/
theorem mem_visited_accessWithin (distinct : (t.rows.map Row.key).Nodup) (decidesNotNull : Bool)
    (fuel : Nat) {c : Clause} (finds : t.FindsKeys parameters (Term.testsOf c)) {r : Row}
    (row : r ∈ t.rows) (holds : c.holds t.layout parameters r = true) :
    r ∈ t.visited parameters (Scope.accessWithin ⟨t.layout, decidesNotNull⟩ fuel c) := by
  induction fuel generalizing c with
  | zero =>
    have chosen := Scope.choice_isFor ⟨t.layout, decidesNotNull⟩ parameters c
    unfold Scope.accessWithin
    split
    · exact row
    · rename_i values found
      rw [found] at chosen
      exact mem_lookUp finds chosen row holds
    · exact row
  | succ fuel ih =>
    have chosen := Scope.choice_isFor ⟨t.layout, decidesNotNull⟩ parameters c
    unfold Scope.accessWithin
    split
    · exact row
    · rename_i values found
      rw [found] at chosen
      exact mem_lookUp finds chosen row holds
    · rename_i alternatives others found
      rw [found] at chosen
      obtain ⟨within, sub⟩ := chosen
      have each := Term.allHold_iff.mp holds
      obtain ⟨a, ha, ahold⟩ := Term.someHold_iff.mp (each _ within)
      have both : Clause.holds t.layout parameters r (a ++ others) = true :=
        Term.allHold_append.mpr ⟨ahold, Term.allHold_iff.mpr fun u hu => each u (sub u hu)⟩
      refine mem_visited_alternatives distinct _ fuel others ha row both (ih ?_ both)
      refine finds.mono fun q hq => ?_
      rw [Term.testsOf_append] at hq
      rcases List.mem_append.mp hq with own | other
      · exact Term.mem_testsOf.mpr ⟨_, within, Term.mem_testsOfEach.mpr ⟨a, ha, own⟩⟩
      · obtain ⟨u, hu, mem⟩ := Term.mem_testsOf.mp other
        exact Term.mem_testsOf.mpr ⟨u, sub u hu, mem⟩

theorem mem_visited_access (distinct : (t.rows.map Row.key).Nodup) (decidesNotNull : Bool)
    {c : Condition} (finds : t.FindsKeys parameters c.tests) {r : Row} (row : r ∈ t.rows)
    (holds : c.holds t.layout parameters r = true) :
    r ∈ t.visited parameters (Scope.access ⟨t.layout, decidesNotNull⟩ c) := by
  have clause := (c.holds_iff_clause t.layout parameters r).1.mp holds
  rw [← c.tests_clause.1] at finds
  unfold Scope.access
  split
  · rename_i v asked
    obtain ⟨k, hk, demand⟩ := List.exists_of_findSome?_eq_some asked
    split at demand
    · rename_i w equal
      cases Option.some.inj demand
      have list := Scope.keyTerm_values ⟨t.layout, decidesNotNull⟩ parameters hk
        (congrArg KeyDemand.values? equal)
      exact mem_lookUp finds list row clause
    · cases demand
  · exact mem_visited_accessWithin distinct decidesNotNull c.orCount finds row clause

theorem selected_subset (decidesNotNull : Bool) (c : Condition) :
    t.selected decidesNotNull parameters (some c) ⊆ t.rows :=
  fun _ mem => visited_subset _ (List.mem_filter.mp mem).1

theorem selected_keys_nodup (distinct : (t.rows.map Row.key).Nodup) (decidesNotNull : Bool)
    (c : Condition) :
    ((t.selected decidesNotNull parameters (some c)).map Row.key).Nodup := by
  refine List.Nodup.map_on (fun r hr q hq same => ?_) ((visited_nodup distinct _).filter _)
  exact List.inj_on_of_nodup_map distinct (selected_subset decidesNotNull c hr)
    (selected_subset decidesNotNull c hq) same

theorem selected_rows_subset (decidesNotNull : Bool) (filter : Option Condition) :
    t.selected decidesNotNull parameters filter ⊆ t.rows := by
  cases filter with
  | none => exact List.Subset.refl _
  | some c => exact selected_subset decidesNotNull c

theorem selected_rows_nodup (distinct : (t.rows.map Row.key).Nodup) (decidesNotNull : Bool)
    (filter : Option Condition) :
    ((t.selected decidesNotNull parameters filter).map Row.key).Nodup := by
  cases filter with
  | none => exact distinct
  | some c => exact selected_keys_nodup distinct decidesNotNull c

/-- Selection gives the rows for which the condition is true, each once, in some order. -/
theorem selected_perm (distinct : (t.rows.map Row.key).Nodup) (decidesNotNull : Bool)
    {c : Condition} (finds : t.FindsKeys parameters c.tests) :
    (t.selected decidesNotNull parameters (some c)).Perm
      (t.rows.filter fun r => c.holds t.layout parameters r) := by
  refine (List.perm_ext_iff_of_nodup ((visited_nodup distinct _).filter _)
    (distinct.of_map.filter _)).mpr fun r => ?_
  rw [List.mem_filter, List.mem_filter]
  constructor
  · exact fun ⟨mem, holds⟩ => ⟨visited_subset _ mem, holds⟩
  · exact fun ⟨mem, holds⟩ => ⟨mem_visited_access distinct decidesNotNull finds mem holds, holds⟩

end Table

end RecordStore
