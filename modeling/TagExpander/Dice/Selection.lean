import TagExpander.Dice.Node
import TagExpander.Sorting

/-! Selection of members by their amounts, and the two operations that need no
rolls. Members are given in order, each with its place. -/

namespace TagExpander.Dice

/-- Lowest amounts first, and equal ones in their order. -/
def ascending (ms : List (Nat × Amount)) : List (Nat × Amount) :=
  Sorting.sort (fun a b => a.2.lt b.2) ms

/-- Highest amounts first, and equal ones in their order. -/
def descending (ms : List (Nat × Amount)) : List (Nat × Amount) :=
  (Sorting.sort (fun a b => a.2.lt b.2) ms.reverse).reverse

def Selector.select (s : Selector) (ms : List (Nat × Amount)) : List Nat :=
  let n := Amount.int s.number
  let selected : List (Nat × Amount) := match s.criterion with
    | .equal => ms.filter (·.2.same n)
    | .lowest => (ascending ms).take s.number
    | .highest => (descending ms).take s.number
    | .below => ms.filter (·.2.lt n)
    | .above => ms.filter (n.lt ·.2)
  selected.map Prod.fst

/-- The places that one of the selectors selects, those of the first one first. -/
def selectAny (ss : List Selector) (ms : List (Nat × Amount)) : List Nat :=
  ss.flatMap (·.select ms)

/-- The places that no selector selects. -/
def selectNone (ss : List Selector) (ms : List (Nat × Amount)) : List Nat :=
  let selected := selectAny ss ms
  (ms.map Prod.fst).filter (!selected.contains ·)

/-- The places that are dropped when one member after the other is looked at, and
goes if no selector selects it among the members that are still `kept`. -/
def dropInTurn (ss : List Selector) : List (Nat × Amount) → List (Nat × Amount) → List Nat
  | [], _ => []
  | m :: r, kept =>
    if (selectAny ss kept).contains m.1 then dropInTurn ss r kept
    else m.1 :: dropInTurn ss r (kept.filter (·.1 ≠ m.1))

/-- The places that an operation drops: the ones it does not keep, or the ones it
selects. What is dropped changes a selection only if some amount has no place in
the order. -/
def Operation.drops (o : Operation) (ms : List (Nat × Amount)) : List Nat :=
  match o.verb with
  | .keep =>
    if ms.all (·.2.isOrdered) then selectNone o.selectors ms else dropInTurn o.selectors ms ms
  | _ => selectAny o.selectors ms

/-- Sets and parentheses keep and drop their members. -/
def Node.operate (n : Node) (o : Operation) : Except Fault Node := do
  let ms ← n.members
  pure (n.dropMembers (o.drops ms))

end TagExpander.Dice
