import RecordStore.Number.Decimal
import RecordStore.Predicate

/-!
Filters: predicates as SQL conditions. AND binds tighter than OR, so only an OR below an
AND needs parentheses. A literal is either a placeholder with a parameter or quoted text.
-/
namespace RecordStore

inductive FilterMode
  | bound
  | inline
deriving DecidableEq

def FilterMode.name : FilterMode → String
  | .bound => "Bound"
  | .inline => "Inline"

/-- The text of a condition with the values of its placeholders, in order. Without a
predicate both are empty. -/
structure Filter where
  text : String
  parameters : List Value
deriving DecidableEq

namespace Filter

def empty : Filter := ⟨"", []⟩

def isEmpty (f : Filter) : Bool := f.text.isEmpty

def joined (separator : String) (f g : Filter) : Filter :=
  ⟨f.text ++ separator ++ g.text, f.parameters ++ g.parameters⟩

def parenthesized (f : Filter) : Filter := ⟨"(" ++ f.text ++ ")", f.parameters⟩

def escapeQuotes (cs : List Char) : List Char :=
  cs.flatMap fun c => if c = '\'' then ['\'', '\''] else [c]

def quote (s : String) : String := String.ofList ('\'' :: escapeQuotes s.toList ++ ['\''])

def inlineText : Literal → String
  | .null => "NULL"
  | .integer i => quote (toString i.toInt)
  | .real x => quote x.plainText
  | .text s => quote s
  | .date d => quote d.text
  | .boolean b => quote (if b then "1" else "0")

def operand (mode : FilterMode) (value : Literal) : Filter :=
  match mode with
  | .bound => ⟨"?", [value.toValue]⟩
  | .inline => ⟨inlineText value, []⟩

/-- A comparison in the declared spelling of its column. NULL is asked for by IS. -/
def ofComparison (columns : List Column) (mode : FilterMode) (c : Comparison) :
    Except PredicateError Filter := do
  let column ← c.check columns
  if c.value.isNull then
    return ⟨column.name ++ (if c.op = .eq then " IS NULL" else " IS NOT NULL"), []⟩
  if !c.value.isFinite then throw .nonFiniteReal
  return (⟨column.name, []⟩ : Filter).joined s!" {c.op.symbol} " (operand mode c.value)

def underAnd (p : Predicate) (f : Filter) : Filter := if p.isOr then f.parenthesized else f

def ofPredicate (columns : List Column) (mode : FilterMode) :
    Predicate → Except PredicateError Filter
  | .compare c => ofComparison columns mode c
  | .and l r => do
    let f ← ofPredicate columns mode l
    let g ← ofPredicate columns mode r
    return (underAnd l f).joined " AND " (underAnd r g)
  | .or l r => do
    let f ← ofPredicate columns mode l
    let g ← ofPredicate columns mode r
    return f.joined " OR " g

def compile (predicate : Option Predicate) (d : Descriptor) (mode : FilterMode) :
    Except PredicateError Filter :=
  match predicate with
  | none => .ok empty
  | some p => ofPredicate d.columns mode p

end Filter

end RecordStore
