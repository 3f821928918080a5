import TagExpander.Library.Writing
import TagExpander.Roller

/-! Methods that take random numbers. -/

namespace TagExpander.Library

/-- One of the parts. -/
def choose (parts : List Text) : Handler := do
  let i ← Procedure.chance (drawBelow parts.length)
  answer (parts.getD i [])

/-- An integer between two bounds, both of them possible. There has to be one. -/
def between (low high : Int) : Handler :=
  if high < low then .stop (.fault .badValue)
  else do
    let i ← Procedure.chance (drawBelow (high - low + 1).toNat)
    answer (Text.Decimal.ofInt (low + i))

/-- The bounds that a list of parts gives: the first two parts in either order, or
zero and the only part. -/
def bounds? (parts : List Text) : Option (Int × Int) :=
  match (parts.take 2).mapM fun p => Text.Decimal.readInt? p.trim with
  | some [n] => some (0, n)
  | some [a, b] => some (min a b, max a b)
  | _ => none

def range (parts : List Text) : Handler :=
  match bounds? parts with
  | some (low, high) => between low high
  | none => .stop (.abort ("Invalid range: ".toList ++ Params.join parts))

/-- Reads and rolls dice. An error that the roller raises aborts the expansion; nothing else
that goes wrong does. -/
def rolled (roller : Roller) (dice : Text) : Procedure roller.Rolled := do
  match ← Procedure.chance (roller.roll (← Procedure.room) dice.trim) with
  | .ok result => pure result
  | .error (.roll e) =>
    .stop (.abort ("Invalid roll \x60".toList ++ dice ++ "\x60: ".toList ++ e.message))
  | .error cause => .stop (.fault cause)

def roll (roller : Roller) (dice : Text) : Handler := do
  let result ← rolled roller dice
  let total ← Procedure.orFault (roller.total (← Procedure.room) result)
  answer (← Procedure.shown (.int total))

/-- Rolls dice and shows every roll. -/
def rollInFull (roller : Roller) (dice : Text) : Handler := do
  let result ← rolled roller dice
  answer (← Procedure.orFault (roller.text (← Procedure.room) result))

def oneDie : Text := "1d20".toList

end TagExpander.Library
