import TagExpander.Dice.Node
import TagExpander.Chance

/-! The cup that dice are rolled from. It holds the random numbers to come and
counts the rolls, of which there is a largest number. -/

namespace TagExpander.Dice

structure Cup where
  draws : List Nat
  rolled : Nat

/-- Rolls from a cup. What was drawn before a fault is gone. -/
abbrev Rolling := ExceptT Fault (StateM Cup)

def maxRolls : Nat := 1000

def ofExcept {α : Type} : Except Fault α → Rolling α
  | .ok a => pure a
  | .error cause => throw cause

/-- Takes a random number below `n`. -/
def draw (n : Nat) : Rolling Nat := do
  let cup ← get
  let (r, rest) := drawBelow n cup.draws
  set { cup with draws := rest }
  pure r

/-- One roll of a die. The sides are looked at first, then the roll is counted,
and then it is drawn. -/
def rollFace (sides : Sides) : Rolling Face := do
  if sides = .count 0 then throw .noSides
  let cup ← get
  if maxRolls ≤ cup.rolled then throw .tooManyDice
  set { cup with rolled := cup.rolled + 1 }
  match sides with
  | .count n => do
    let r ← draw n
    pure (.fresh (r + 1))
  | .percent => do
    let r ← draw 10
    pure (.fresh (10 * r))

def rollDie (sides : Sides) : Rolling Die := do
  let f ← rollFace sides
  pure ⟨[f], true⟩

def rollDice (sides : Sides) : Nat → Rolling (List Die)
  | 0 => pure []
  | n + 1 => do
    let d ← rollDie sides
    let ds ← rollDice sides n
    pure (d :: ds)

/-- The last roll is dropped, and another one follows it. -/
def rerollDie (sides : Sides) (d : Die) : Rolling Die := do
  let f ← rollFace sides
  let d := d.modifyLast fun x => { x with kept := false }
  pure { d with faces := d.faces ++ [f] }

end TagExpander.Dice
