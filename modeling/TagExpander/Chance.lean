/-! Random numbers, as a list of those to come. -/

namespace TagExpander

/-- The next random number below `n`, and the ones after it. When none are left it
is zero. -/
def drawBelow (n : Nat) : List Nat → Nat × List Nat
  | [] => (0, [])
  | r :: rest => (r % n, rest)

theorem drawBelow_lt {n : Nat} (h : 0 < n) (draws : List Nat) : (drawBelow n draws).1 < n := by
  cases draws with
  | nil => exact h
  | cons r rest => exact Nat.mod_lt r h

end TagExpander
