import TagExpander.Table
import TagExpander.Written

/-! The environment that methods read and write while a text is expanded. It is a
plain value, so a copy is the environment itself. -/

namespace TagExpander

abbrev Environment := Table Value

namespace Environment

def quoted (e : Environment) : Except Fault Text :=
  ((Value.dict e.entries).quotedIn Room.full).map fun t => "<Environment ".toList ++ t ++ ['>']

end Environment

end TagExpander
