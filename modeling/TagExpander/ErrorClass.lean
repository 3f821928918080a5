import TagExpander.Written

/-! The errors of this library as a hierarchy: an abort and an invalid argument are both
general errors. -/

namespace TagExpander

inductive ErrorClass where
  | general
  | abort
  | invalidArgument
deriving DecidableEq, Repr

namespace ErrorClass

/-- From the class itself upwards. -/
def lineage : ErrorClass → List ErrorClass
  | general => [general]
  | abort => [abort, general]
  | invalidArgument => [invalidArgument, general]

/-- The message of an error made with the given arguments. Only an abort may go
without one. -/
def message (c : ErrorClass) (given : List Value) : Except Fault Text :=
  match c, given with
  | abort, [] => .ok defaultMessage
  | abort, [v] => if v.isFalsy then .ok defaultMessage else v.shownIn Room.full
  | _, [v] => v.shownIn Room.full
  | _, _ => .error .badType

end ErrorClass

end TagExpander
