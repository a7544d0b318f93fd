import RecordStore.Store.Clause
import RecordStore.Store.Estimate

/-!
What the terms of a clause offer for finding rows by their keys. Alternatives can be worth
one more term: comparisons with the same operand join into one, and equalities on one column
make a list of its values.
-/
namespace RecordStore

open Sql

inductive Relation
  | eq
  | lt
  | le
  | gt
  | ge
deriving DecidableEq

namespace Relation

def isUpper : Relation → Bool
  | .lt | .le => true
  | _ => false

def isLower : Relation → Bool
  | .gt | .ge => true
  | _ => false

/-- What holds if one of two relations to the same operand does. -/
def join? (r s : Relation) : Option Relation :=
  if r = s then some r
  else if (r = .eq || r.isUpper) && (s = .eq || s.isUpper) then some .le
  else if (r = .eq || r.isLower) && (s = .eq || s.isLower) then some .ge
  else none

def ofCompare : CompareOp → Option Relation
  | .eq => some .eq
  | .ne => none
  | .lt => some .lt
  | .gt => some .gt

end Relation

/-- What a term says about a column, as far as it can help to find rows. -/
inductive Offer
  | relation (column : ColumnPlace) (r : Relation) (value : Operand)
  /-- A list of values, made from the alternatives at a place of the clause. -/
  | oneOf (column : ColumnPlace) (values : List Operand) (source : Nat)
  | null (column : ColumnPlace)
  | notNull (column : ColumnPlace)
  /-- What a cell that is not NULL is besides. -/
  | aboveNull (column : ColumnPlace)
  | alternatives
  | row
  | constant
deriving DecidableEq

namespace Offer

def isOfColumn : Offer → Bool
  | .relation _ _ _ | .oneOf _ _ _ | .null _ | .aboveNull _ => true
  | _ => false

def isRepeated : Offer → Bool
  | .relation _ _ _ | .null _ | .alternatives => true
  | _ => false

def isEquality : Offer → Bool
  | .relation _ .eq _ => true
  | _ => false

def join? : Offer → Offer → Option Offer
  | .relation c r v, .relation d s w =>
    if c = d ∧ v = w then (r.join? s).map fun r => .relation c r v else none
  | _, _ => none

def equality? : Offer → Option (ColumnPlace × Operand)
  | .relation c .eq v => some (c, v)
  | _ => none

end Offer

/-- Where a clause is read: for which table, and whether it is decided beforehand that columns
that never are NULL are not NULL. That they are NULL is false everywhere. -/
structure Scope where
  layout : TableLayout
  decidesNotNull : Bool

namespace Scope

def isRequired (s : Scope) : ColumnPlace → Bool
  | .key => true
  | .cell i => ((s.layout.cells[i]?).map CellLayout.required).getD false

def offerOfTest (s : Scope) (t : Test) : Offer :=
  match s.layout.place? t.column.name with
  | none => .constant
  | some place =>
    match t with
    | .compare _ op v =>
      match Relation.ofCompare op with
      | some r => .relation place r v
      | none => .row
    | .isNull _ => if s.isRequired place then .constant else .null place
    | .isNotNull _ =>
      if s.decidesNotNull && s.isRequired place then .constant else .notNull place

def offer (s : Scope) : Term → Offer
  | .test t => s.offerOfTest t
  | .any _ => .alternatives

def offers (s : Scope) (c : Clause) : List Offer := c.map s.offer

end Scope

def areSearchable (alternatives : List (List Offer)) : Bool :=
  alternatives.all fun offers => offers.any Offer.isOfColumn

/-- A single test that a cell is not NULL is one more alternative, namely that the cell is
above NULL. -/
def isDoubled : List Offer → Bool
  | .notNull (.cell _) :: .aboveNull _ :: [] => true
  | _ => false

def joinedOffers : List (List Offer) → List Offer
  | [first, second] =>
    if isDoubled first || isDoubled second then []
    else first.flatMap fun o => second.filterMap o.join?
  | _ => []

def valueList? (source : Nat) (alternatives : List (List Offer)) : Option Offer := do
  let equalities ← alternatives.mapM fun offers =>
    match offers with
    | [o] => o.equality?
    | _ => none
  let (column, _) ← equalities.head?
  if equalities.all fun e => e.1 == column then
    some (.oneOf column (equalities.map Prod.snd) source)
  else none

mutual

def Term.furtherOffers (s : Scope) (place : Nat) : Term → List Offer
  | .test t =>
    match s.offerOfTest t with
    | .notNull (.cell i) => [.aboveNull (.cell i)]
    | _ => []
  | .any as =>
    let alternatives := Term.offersOfEach s as
    if areSearchable alternatives then
      joinedOffers alternatives ++ (valueList? place alternatives).toList
    else []

def Term.furtherOffersFrom (s : Scope) (place : Nat) : List Term → List Offer
  | [] => []
  | t :: ts => Term.furtherOffersFrom s (place + 1) ts ++ t.furtherOffers s place

def Term.offersOfEach (s : Scope) : List (List Term) → List (List Offer)
  | [] => []
  | c :: cs => (s.offers c ++ Term.furtherOffersFrom s 0 c) :: Term.offersOfEach s cs

end

namespace Scope

def allOffers (s : Scope) (c : Clause) : List Offer :=
  s.offers c ++ Term.furtherOffersFrom s 0 c

end Scope

end RecordStore
