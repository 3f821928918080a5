import TagExpander.Builder
import TagExpander.Text.Case

/-! Settings read from variables. A limit that is set has to be a numeral; whether
it is positive is found out when a parser is built. No variable holds the null
character. -/

namespace TagExpander

structure Settings where
  iterations : Int
  maxLength : Int
  maxOutput : Int
  workerName : Text
  logLevel : Text

namespace Settings

def readLimit (default : Int) : Option Text → Except Fault Int
  | none => .ok default
  | some s =>
    match Text.Decimal.readInt? s with
    | some n => .ok n
    | none => .error .badValue

/-- Reads the settings from the variables that are set. -/
def load (vars : List (Text × Text)) : Except Fault Settings := do
  if vars.any (·.2.contains '\x00') then throw .badValue
  let var (name : String) : Option Text := vars.lookup name.toList
  let iterations ← readLimit 1000 (var "TAG_MAX_ITERATIONS")
  let maxLength ← readLimit 40000 (var "TAG_MAX_LENGTH")
  let maxOutput ← readLimit 2000 (var "TAG_MAX_OUTPUT")
  pure {
    iterations, maxLength, maxOutput
    workerName := (var "TAG_WORKER_NAME").getD "tag-parser".toList
    logLevel := Text.upper ((var "TAG_LOG_LEVEL").getD "INFO".toList) }

def builder (s : Settings) : Builder :=
  Builder.fresh s.iterations s.maxLength s.maxOutput

end Settings

end TagExpander
