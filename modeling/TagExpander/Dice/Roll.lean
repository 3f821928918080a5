import TagExpander.Dice.Cup
import TagExpander.Dice.Selection

/-! Rolls dice expressions, from left to right and from the inside out. Operations
on dice follow as soon as these are rolled. Amounts of the rest of the tree are
computed only where an operation looks at them. -/

namespace TagExpander.Dice

def rerollPlaces (sides : Sides) (places : List Nat) (ds : List Die) : Rolling (List Die) :=
  ds.zipIdx.mapM fun (d, i) => if places.contains i then rerollDie sides d else pure d

def explodePlaces (places : List Nat) (ds : List Die) : List Die :=
  modifyAt places (·.modifyLast fun x => { x with exploded := true }) ds

/-- Rerolls the selected dice until none is selected. Every round takes at least
one roll, so the rolls run out before the fuel does. -/
def rerollAll (sides : Sides) (ss : List Selector) : Nat → List Die → Rolling (List Die)
  | 0, _ => throw .tooManyDice
  | fuel + 1, ds => do
    let places := selectAny ss (← ofExcept (keptDice ds))
    if places.isEmpty then pure ds
    else rerollAll sides ss fuel (← rerollPlaces sides places ds)

/-- Adds a die for each selected one until none is selected that has not exploded
before. -/
def explodeAll (sides : Sides) (ss : List Selector) : Nat → List Nat → List Die → Rolling (List Die)
  | 0, _, _ => throw .tooManyDice
  | fuel + 1, exploded, ds => do
    let selected := selectAny ss (← ofExcept (keptDice ds))
    let places := (List.range ds.length).filter fun i =>
      selected.contains i && !exploded.contains i
    if places.isEmpty then pure ds
    else
      let more ← rollDice sides places.length
      explodeAll sides ss fuel (exploded ++ places) (explodePlaces places ds ++ more)

/-- The bound of a minimum or maximum: the last selector, which has to be a plain
number. -/
def bound (fault : Text → Fault) (ss : List Selector) : Except Fault Nat :=
  match ss.getLast? with
  | none => .ok 0
  | some s => if s.criterion = .equal then .ok s.number else .error (fault s.shown)

/-- The kept dice whose amount is `beyond` the bound get the bound as their new
amount. -/
def force (beyond : Amount → Bool) (n : Nat) (ds : List Die) : Except Fault (List Die) := do
  let places := ((← keptDice ds).filter (beyond ·.2)).map Prod.fst
  pure (modifyAt places (·.modifyLast fun x => { x with history := x.history ++ [.int n] }) ds)

def operateDice (sides : Sides) (ds : List Die) (o : Operation) : Rolling (List Die) := do
  match o.verb with
  | .keep | .drop => do
    let ms ← ofExcept (keptDice ds)
    pure (modifyAt (o.drops ms) Die.dropped ds)
  | .reroll => rerollAll sides o.selectors (maxRolls + 1) ds
  | .rerollOnce => do
    let ms ← ofExcept (keptDice ds)
    rerollPlaces sides (selectAny o.selectors ms) ds
  | .explode => explodeAll sides o.selectors (maxRolls + 1) [] ds
  | .explodeOnce => do
    let ms ← ofExcept (keptDice ds)
    match selectAny o.selectors ms with
    | [] => pure ds
    | i :: _ => do
      let d ← rollDie sides
      pure (explodePlaces [i] ds ++ [d])
  | .minimum => ofExcept do
    let n ← bound .minimumSelector o.selectors
    force (·.lt (.int n)) n ds
  | .maximum => ofExcept do
    let n ← bound .maximumSelector o.selectors
    force (Amount.lt (.int n) ·) n ds

/-- Goes on inside of a part that takes its share of the reach, which says how far
into an expression rolling goes. -/
def within {α : Type} (reach share : Nat) (inner : Nat → Rolling α) : Rolling α :=
  if reach < share then throw .nestedTooDeep else inner (reach - share)

/-- The share that operations take. -/
def operationsShare (os : List Operation) : Nat :=
  if os.isEmpty then 0 else 2

/-- The share that dice take. -/
def diceShare : Nat := 4

namespace Expr

mutual

/-- What is rolled before the reach ends is rolled. -/
def roll (reach : Nat) : Expr → Rolling Node
  | number a => pure (.number a .plain)
  | dice c s os => within reach (diceShare + operationsShare os) fun _ => do
    let ds ← rollDice s c
    let ds ← os.foldlM (operateDice s) ds
    pure (.dice c s ds os .plain)
  | signed s e => within reach 2 fun reach => do
    let n ← roll reach e
    pure (.signed s n .plain)
  | binary l op r => within reach 2 fun reach => do
    let a ← roll reach l
    let b ← roll reach r
    pure (.binary a op b .plain)
  | paren e os => within reach (2 + operationsShare os) fun reach => do
    let n ← roll reach e
    ofExcept (os.foldlM Node.operate (.paren n os .plain))
  | set es os => within reach (3 + operationsShare os) fun reach => do
    let ns ← rollAll reach es
    ofExcept (os.foldlM Node.operate (.set ns os .plain))
  | annotated e remark => within reach 2 fun reach => do
    let n ← roll reach e
    pure (n.annotate remark)

def rollAll (reach : Nat) : List Expr → Rolling (List Node)
  | [] => pure []
  | e :: r => do
    let n ← roll reach e
    let ns ← rollAll reach r
    pure (n :: ns)

end

/-- Rolls with fresh dice; the rest of the random numbers is given back. -/
def rollWith (e : Expr) (reach : Nat) (draws : List Nat) : Except Fault Node × List Nat :=
  let (result, cup) := (e.roll reach).run.run ⟨draws, 0⟩
  (result, cup.draws)

end Expr

end TagExpander.Dice
