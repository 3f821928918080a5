import TagExpander.Method
import TagExpander.Record
import TagExpander.Table

/-! The methods of a parser by name. When a name is registered again, the new
method takes the old one's place, and a record is kept. -/

namespace TagExpander

abbrev Registry (α : Type) := Table (Method α)

namespace Registry

variable {α : Type}

def register (s : Registry α × List Record) (m : Method α) : Registry α × List Record :=
  (s.1.insert m.name m, if s.1.contains m.name then s.2 ++ [.repeatedName m.name] else s.2)

/-- The registry of a list of methods, and the records of the names that came
again. -/
def build (methods : List (Method α)) : Registry α × List Record :=
  methods.foldl register (Table.empty, [])

end Registry

end TagExpander
