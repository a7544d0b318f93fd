import RecordStore.Store.Offer

/-!
Ways to the rows that a clause is tried on, and what they are expected to cost: a walk over
the table, key lookups, and alternatives one after another.
-/
namespace RecordStore

open Sql

inductive KeyDemand
  | equal (value : Operand)
  | among (values : List Operand)
  | above
  | below
deriving DecidableEq

structure KeyTerm where
  demand : KeyDemand
  place : Option Nat
  /-- The place, in its own clause, of the term whose alternatives it was made from. -/
  source : Option Nat
deriving DecidableEq

namespace KeyTerm

def ofOffer (place : Nat) : Offer → Option KeyTerm
  | .relation .key .eq v => some ⟨.equal v, some place, none⟩
  | .relation .key r _ => some ⟨if r.isUpper then .below else .above, some place, none⟩
  | .oneOf .key values source => some ⟨.among values, some place, some source⟩
  | _ => none

def enclosing (k : KeyTerm) : KeyTerm := { k with place := none }

/-- Whether the term at a place of a clause is this one, or the one that it was made from. -/
def accountsFor (k : KeyTerm) (place : Nat) : Bool :=
  k.place == some place || k.source == some place

end KeyTerm

structure Way where
  estimate : Estimate
  /-- The keys to look up; without them the table is walked over, wholly or in part. -/
  keys : Option (List Operand)
  used : List KeyTerm

namespace Way

/-- Every offer that the way leaves to be tried on the rows leaves fewer of them. -/
def narrowed (offers : List Offer) (w : Way) : Way :=
  let left := offers.zipIdx.filter fun (o, place) =>
    o != .constant && !w.used.any fun k => k.accountsFor place
  let limit :=
    if left.any fun (o, _) => o.isEquality then Estimate.tableRows - 20
    else Estimate.tableRows
  let rows := min (w.estimate.rows - Int.ofNat left.length) limit
  { w with estimate := { w.estimate with rows := rows } }

/-- The ways that begin with one term. A lower bound may be joined by an upper one. -/
def beginningWith (terms : List KeyTerm) (k : KeyTerm) : List Way :=
  match k.demand with
  | .equal v => [⟨.oneKey, some [v], [k]⟩]
  | .among vs => [⟨.someKeys vs.length, some vs, [k]⟩]
  | .below => [⟨.oneSide, none, [k]⟩]
  | .above =>
    let both := (terms.filter fun l => l.demand == .below).map fun l =>
      (⟨.between, none, [k, l]⟩ : Way)
    ⟨.oneSide, none, [k]⟩ :: both

def all (offers : List Offer) (terms : List KeyTerm) : List Way :=
  (terms.flatMap (beginningWith terms)).map (narrowed offers)

end Way

namespace Scope

def keyTerms (s : Scope) (c : Clause) : List KeyTerm :=
  (s.allOffers c).zipIdx.filterMap fun (o, place) => KeyTerm.ofOffer place o

end Scope

mutual

/-- What it takes to search alternatives one by one, where each is searched by its own terms
and those of the enclosing clauses. None if one of them cannot be searched by keys. -/
def Term.estimate? (s : Scope) (enclosing : List KeyTerm) : Term → Option Estimate
  | .test _ => none
  | .any as => do
    let offers := Term.offersOfEach s as
    if !areSearchable offers then none
    let own ← Term.estimateEach? s enclosing as
    let doubles := (offers.filter isDoubled).map fun _ =>
      Estimate.cheapest ((Way.all [] enclosing).map Way.estimate)
    let sum ← Estimate.total (own ++ (← doubles.mapM id))
    return { sum with cost := sum.cost + 1 }

def Term.estimateEach? (s : Scope) (enclosing : List KeyTerm) :
    List (List Term) → Option (List Estimate)
  | [] => some []
  | c :: cs => do
    let terms := s.keyTerms c ++ enclosing
    let ways := (Way.all (s.offers c) terms).map Way.estimate
    let own ← Estimate.cheapest (ways ++ Term.estimates s (terms.map KeyTerm.enclosing) c)
    let others ← Term.estimateEach? s enclosing cs
    return own :: others

def Term.estimates (s : Scope) (enclosing : List KeyTerm) : List Term → List Estimate
  | [] => []
  | t :: ts => (t.estimate? s enclosing).toList ++ Term.estimates s enclosing ts

end

inductive Choice
  | scan
  | keys (values : List Operand)
  | split (alternatives : List Clause) (others : Clause)

namespace Scope

def scan (s : Scope) (c : Clause) : Estimate × Choice :=
  ((Way.narrowed (s.offers c) ⟨.scan, none, []⟩).estimate, .scan)

def byKeys (s : Scope) (c : Clause) : List (Estimate × Choice) :=
  (Way.all (s.offers c) (s.keyTerms c)).map fun w =>
    (w.estimate, match w.keys with
      | none => .scan
      | some values => .keys values)

def bySplit (s : Scope) (c : Clause) : List (Estimate × Choice) :=
  c.zipIdx.filterMap fun (t, place) =>
    match t with
    | .test _ => none
    | .any as =>
      let others := (c.eraseIdx place).filter fun u => (s.offer u).isRepeated
      (t.estimate? s ((s.keyTerms c).map KeyTerm.enclosing)).map fun e => (e, .split as others)

/-- The best way to the rows of a clause, and of equally good ones the first. -/
def choice (s : Scope) (c : Clause) : Choice :=
  ((s.byKeys c ++ s.bySplit c).foldl
    (fun best next => if next.1.isBetter best.1 then next else best) (s.scan c)).2

end Scope

end RecordStore
