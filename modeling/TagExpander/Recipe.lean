import TagExpander.Parser

/-! Handlers described by data. Each kind does one thing with the parameters it is
called with: `null` in the simple form, a text, or a list of texts when they are
split. Every call is noted before the handler acts. -/

namespace TagExpander

inductive Recipe where
  | const (v : Value)
  | echo
  | parts
  | abort (message : Text)
  | fault (cause : Fault)
  | increment (key : Text)
  | put (key : Text)
  | keys
  | clear
  | parse
  | parseHere
  | parserPut (key : Text)
  | parserClear

namespace Recipe

/-- One more than a number; flags count as numbers, and nothing is zero. -/
def successor? : Option Value → Option Int
  | none => some 1
  | some (.int n) => some (n + 1)
  | some (.bool b) => some (if b then 2 else 1)
  | some _ => none

/-- The number of parts, then each part in brackets. -/
def listed (parts : List Text) : Text :=
  Text.Decimal.ofNat parts.length ++ parts.flatMap fun p => '[' :: p ++ [']']

def sortedKeys (e : Environment) : List Text :=
  e.keys.mergeSort fun a b => !b.lex a fun x y => x.toNat < y.toNat

open Procedure

/-- Only a text can be expanded. -/
def nested (request : Text → Request) : Value → Handler
  | .text s => do
    let t ← Procedure.request (request s)
    pure (.text t)
  | _ => .stop (.fault .missingMember)

def act (params : Value) : Recipe → Handler
  | const v => pure v
  | echo => pure params
  | parts => do
    let ps ← (match params with
      | .list ps => ps
      | p => [p]).mapM Procedure.shown
    pure (.text (listed ps))
  | abort message => .stop (Stop.abortWith message)
  | fault cause => .stop (.fault cause)
  | increment key => do
    let e ← environment
    match successor? (e.get? key) with
    | some n =>
      setEnvironment (e.insert key (.int n))
      pure (.text (← orFault (Value.numeral n)))
    | none => .stop (.fault .badType)
  | put key => do
    let e ← environment
    setEnvironment (e.insert key params)
    pure (.text [])
  | keys => do
    let e ← environment
    pure (.text (List.intercalate [','] (sortedKeys e)))
  | clear => do
    setEnvironment Table.empty
    pure (.text [])
  | parse => nested .parse params
  | parseHere => nested .parseHere params
  | parserPut key => do
    let _ ← request (.put key params)
    pure (.text [])
  | parserClear => do
    let _ ← request .clear
    pure (.text [])

def noted (name : Text) (params : Value) (r : Recipe) : Handler :=
  .note name params (r.act params)

/-- A method whose forms are recipes. -/
def method (name : Option Text) (simple complex : Option Recipe) (split : Bool) :
    Except InvalidArgument (Method Handler) :=
  let n := name.getD []
  Method.make name (simple.map (noted n .null)) (complex.map fun r =>
    if split then .parts fun ps => noted n (Value.texts ps) r
    else .whole fun p => noted n (.text p) r)

end Recipe

end TagExpander
