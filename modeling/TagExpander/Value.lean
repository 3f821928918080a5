import TagExpander.Text.Basic
import TagExpander.Number.Shortest

/-! Values that methods answer with and environments hold. -/

namespace TagExpander

inductive Value where
  | null
  | bool (b : Bool)
  | int (n : Int)
  | float (x : Binary64)
  | text (s : Text)
  | list (items : List Value)
  | dict (entries : List (Text × Value))
deriving Repr, Inhabited

namespace Value

/-- A list of texts as a value. -/
def texts (parts : List Text) : Value :=
  list (parts.map text)

end Value

end TagExpander
