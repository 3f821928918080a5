import TagExpander.Text.Basic
import TagExpander.Number.Fault

/-! What goes wrong when dice are read, rolled or written. -/

namespace TagExpander.Dice

inductive Fault where
  | unexpectedInput
  | noSides
  | tooManyDice
  | divisionByZero
  | minimumSelector (selector : Text)
  | maximumSelector (selector : Text)
  | number (cause : NumberFault)
  | nestedTooDeep
deriving DecidableEq, Repr

end TagExpander.Dice
