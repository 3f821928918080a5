import TagExpander.Fault

/-! The package that rolls dice, as far as methods use it. It reads an expression and rolls
its dice, and what is left to compute is computed when the total or the text of the result is
asked for. Each of these may raise an error. -/

namespace TagExpander

structure Roller where
  Rolled : Type
  /-- Takes random numbers from the front and leaves the others. -/
  roll : Nat → Text → List Nat → Except Fault Rolled × List Nat
  total : Nat → Rolled → Except Fault Int
  text : Nat → Rolled → Except Fault Text

end TagExpander
