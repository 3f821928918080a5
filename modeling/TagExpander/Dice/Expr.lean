import TagExpander.Dice.Amount

/-! Dice expressions: numbers, dice, arithmetic, parentheses and sets. Dice and
sets are followed by operations, each with selectors that say which members it is
about; any operand may carry annotations. -/

namespace TagExpander.Dice

inductive Criterion where
  | equal
  | lowest
  | highest
  | below
  | above
deriving DecidableEq, Repr

structure Selector where
  criterion : Criterion
  number : Nat
deriving DecidableEq, Repr

inductive Verb where
  | keep
  | drop
  | reroll
  | rerollOnce
  | explode
  | explodeOnce
  | minimum
  | maximum
deriving DecidableEq, Repr

/-- One verb with its selectors. -/
structure Operation where
  verb : Verb
  selectors : List Selector
deriving DecidableEq, Repr

inductive Sides where
  | count (n : Nat)
  | percent
deriving DecidableEq, Repr

inductive Expr where
  | number (a : Amount)
  | dice (count : Nat) (sides : Sides) (operations : List Operation)
  | signed (s : Sign) (e : Expr)
  | binary (l : Expr) (op : Operator) (r : Expr)
  | paren (e : Expr) (operations : List Operation)
  | set (members : List Expr) (operations : List Operation)
  | annotated (e : Expr) (remark : Text)
deriving Repr, Inhabited

def Criterion.shown : Criterion → Text
  | equal => []
  | lowest => ['l']
  | highest => ['h']
  | below => ['<']
  | above => ['>']

def Selector.shown (s : Selector) : Text :=
  s.criterion.shown ++ Text.Decimal.ofNat s.number

namespace Verb

def shown : Verb → Text
  | keep => ['k']
  | drop => ['p']
  | reroll => ['r', 'r']
  | rerollOnce => ['r', 'o']
  | explode => ['e']
  | explodeOnce => ['r', 'a']
  | minimum => ['m', 'i']
  | maximum => ['m', 'a']

/-- Neighbours with this verb are taken as one operation. -/
def merges : Verb → Bool
  | minimum | maximum => false
  | _ => true

end Verb

namespace Operation

/-- The verb is written before each selector. -/
def shown (o : Operation) : Text :=
  o.selectors.flatMap fun s => o.verb.shown ++ s.shown

/-- Puts an operation in front of the others, together with the first of them if
both have one verb. -/
def consMerged (o : Operation) : List Operation → List Operation
  | [] => [o]
  | p :: r =>
    if o.verb = p.verb ∧ o.verb.merges then ⟨o.verb, o.selectors ++ p.selectors⟩ :: r
    else o :: p :: r

def merged (os : List Operation) : List Operation :=
  os.foldr consMerged []

end Operation

def Sides.shown : Sides → Text
  | count n => Text.Decimal.ofNat n
  | percent => ['%']

end TagExpander.Dice
