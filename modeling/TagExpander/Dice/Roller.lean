import TagExpander.Dice.Reader
import TagExpander.Dice.Printer
import TagExpander.Roller
import TagExpander.Room

/-! The roller that the library uses. -/

namespace TagExpander.Dice

def Fault.toFault : Fault → TagExpander.Fault
  | unexpectedInput => .roll ⟨.unreadable, "Unexpected input.".toList⟩
  | noSides => .roll ⟨.badValue, "Cannot roll a 0-sided die.".toList⟩
  | tooManyDice => .roll ⟨.tooManyDice, "Too many dice rolled.".toList⟩
  | divisionByZero => .roll ⟨.badValue, "Cannot divide by zero.".toList⟩
  | minimumSelector s => .roll ⟨.badValue, s ++ " is not a valid selector for minimums.".toList⟩
  | maximumSelector s => .roll ⟨.badValue, s ++ " is not a valid selector for maximums.".toList⟩
  | number cause => .number cause
  | nestedTooDeep => .nestedTooDeep

/-- The room that reading takes, whatever the dice are: the handler has it done, and fifteen
calls of the reader are at work inside of one another. -/
def readingShare : Nat := Room.toHandler + 15

/-- The room that is taken where rolling reaches the dice, nine calls below the handler. -/
def rollingShare : Nat := Room.toHandler + 9

/-- The room that is taken where writing reaches the rolled tree, fourteen calls below the
handler. -/
def writingShare : Nat := Room.toHandler + 14

/-- Reads dice and rolls them. -/
def throwIn (room : Nat) (dice : Text) (draws : List Nat) : Except Fault Node × List Nat :=
  if room < readingShare then (.error .nestedTooDeep, draws)
  else
    match Reader.read dice with
    | .ok e => e.rollWith (room - rollingShare) draws
    | .error cause => (.error cause, draws)

def roller : Roller where
  Rolled := Node
  roll room dice draws := ((throwIn room dice draws).1.mapError Fault.toFault, (throwIn room dice draws).2)
  total _ n := n.wholeTotal.mapError Fault.toFault
  text room n := (n.fullText (room - writingShare)).mapError Fault.toFault

end TagExpander.Dice
