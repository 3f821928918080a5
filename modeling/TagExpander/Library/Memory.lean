import TagExpander.Library.Writing

/-! Methods that read and write the environment. -/

namespace TagExpander.Library

/-- Binds the trimmed first part to all that follows its pipe. -/
def set (params : Text) : Handler :=
  let parts := Params.splitMost 1 params
  let name := Text.trim (parts.headD [])
  if name.isEmpty then decline
  else do
    let e ← Procedure.environment
    Procedure.setEnvironment (e.insert name (.text (parts.getD 1 [])))
    answer []

/-- The value bound to a name; nothing for `null` or an unbound name. -/
def get (name : Text) : Handler := do
  let e ← Procedure.environment
  match e.get? name.trim with
  | none | some .null => answer []
  | some v => do answer (← Procedure.shown v)

def isSet (name : Text) : Handler := do
  let e ← Procedure.environment
  answer (if e.contains name.trim then "true".toList else "false".toList)

end TagExpander.Library
