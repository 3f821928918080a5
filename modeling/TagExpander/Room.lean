/-! Room for calls that are at work inside of one another: nested expansions, the parts of
a nested value while it is written, and the parts of a roll. It is counted from the call of
a parser. -/

namespace TagExpander.Room

/-- So many calls can be at work inside of one another. -/
def most : Nat := 1000

/-- The calls that are at work already where an outermost expansion begins. -/
def taken : Nat := 5

/-- The room where nothing is nested. -/
def full : Nat := most - taken

/-- From a parser down to a handler: the passes, the dispatch, the form of the method and
the handler follow the call of the parser. -/
def toHandler : Nat := 5

/-- From a parser down to the writing of an answer, which the passes call. -/
def toAnswer : Nat := 3

end TagExpander.Room
