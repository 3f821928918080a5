import TagExpander.Value

/-! The three limits of an expansion. A limit is a positive number; the flag
`true` is taken for one, and keeps its spelling. -/

namespace TagExpander

structure Limit where
  value : Nat
  flag : Bool
  positive : 0 < value
deriving DecidableEq, Repr

inductive LimitName where
  | iterations
  | maxLength
  | maxOutput
deriving DecidableEq, Repr

structure Limits where
  iterations : Limit
  maxLength : Limit
  maxOutput : Limit
deriving DecidableEq, Repr

namespace Limit

def count (n : Nat) (h : 0 < n := by decide) : Limit := ⟨n, false, h⟩

def flagged : Limit := ⟨1, true, by decide⟩

def toValue (l : Limit) : Value :=
  if l.flag then .bool true else .int l.value

/-- A limit as records show it. They show limits that a text has passed in length. -/
def shown (l : Limit) : Text :=
  if l.flag then "True".toList else Text.Decimal.ofNat l.value

end Limit

def LimitName.shown : LimitName → Text
  | iterations => "iterations".toList
  | maxLength => "max_length".toList
  | maxOutput => "max_output".toList

namespace Limits

/-- The limits of a parser that was given none. -/
def default : Limits := ⟨Limit.count 1000, Limit.count 40000, Limit.count 2000⟩

def set (ls : Limits) : LimitName → Limit → Limits
  | .iterations, l => { ls with iterations := l }
  | .maxLength, l => { ls with maxLength := l }
  | .maxOutput, l => { ls with maxOutput := l }

end Limits

end TagExpander
