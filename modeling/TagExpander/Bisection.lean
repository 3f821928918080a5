/-! Bisection finds by halving where a property of places begins to hold, if it holds
from there on. -/

namespace TagExpander.Bisection

variable {α : Type}

/-- A place from `low` to `high`, with some halvings left. Where two places are in the
middle, the `later` one is looked at or the earlier one; this matters only if what
`holds` at a place does not hold from there on. -/
def placeFrom (holds : Nat → Bool) (later : Bool) : Nat → Nat → Nat → Nat
  | 0, low, _ => low
  | halvings + 1, low, high =>
    if low < high then
      let middle := if later then (low + high) / 2 else (low + high - 1) / 2
      if holds middle then placeFrom holds later halvings low middle
      else placeFrom holds later halvings (middle + 1) high
    else low

/-- The first place that is `before` its element, if the same is true of all places
that follow it. -/
def place (before : α → Bool) (sorted : Array α) : Nat :=
  placeFrom (fun i => (sorted[i]?.map before).getD false) true (sorted.size + 1) 0 sorted.size

end TagExpander.Bisection
