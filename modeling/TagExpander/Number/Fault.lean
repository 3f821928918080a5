/-! What goes wrong with a number itself, whatever it is used for. -/

namespace TagExpander

/-- A number is too large for what has to hold it, is undefined where a number is
needed, or has more digits than are read or written. -/
inductive NumberFault where
  | outOfRange
  | undefined
  | tooManyDigits
deriving DecidableEq, Repr

end TagExpander
