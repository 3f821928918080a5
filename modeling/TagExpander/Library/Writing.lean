import TagExpander.Parser
import TagExpander.Text.Case

/-! Methods that work on text alone. -/

namespace TagExpander.Library

def answer (s : Text) : Handler := pure (.text s)

/-- Leaves the marker as it is written. -/
def decline : Handler := pure .null

/-- The third part, with the first one replaced by the second; pipes may follow
in it. -/
def replace : List Text → Handler
  | old :: new :: part :: more => answer ((Params.join (part :: more)).replaceAll old new)
  | _ => decline

def length (s : Text) : Handler :=
  answer (Text.Decimal.ofNat s.length)

/-- Gives up on the whole text, with a message. -/
def giveUp (message : Text) : Handler :=
  .stop (Stop.abortWith message)

end TagExpander.Library
