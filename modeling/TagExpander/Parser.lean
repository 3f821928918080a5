import TagExpander.Procedure

/-! Parsers: a registry of methods and the limits of every expansion. A handler
may ask its parser to expand another text, so expansions nest. Each of them takes
its share of the room; where none is left for another level, no method is called. -/

namespace TagExpander

abbrev Handler := Procedure Value

structure Parser where
  registry : Registry Handler
  limits : Limits

namespace Parser

/-- The room of an expansion inside of which others can nest `depth` levels deep. Each of
them is asked for by a handler of the one around it. -/
def roomFor (depth : Nat) : Nat := Room.toHandler * (depth + 1)

/-- Answers requests by means of `expand`. An expansion on the shared environment
leaves the run's own environment as it was. -/
def respond (expand : Text → World → Outcome World) : Request → World → Except Fault Text × World
  | .put k v, w => (.ok [], { w with shared := w.shared.insert k v })
  | .clear, w => (.ok [], { w with shared := Table.empty })
  | .parse s, w =>
    let out := expand s { w with own := none }
    (out.answer, { out.state with own := w.own })
  | .parseHere s, w =>
    let out := expand s w
    (out.answer, out.state)

/-- The actions that handlers stand for. -/
def actions (p : Parser) (server : Server) : Registry (Action World) :=
  p.registry.map (·.map (·.act server))

/-- Actions for which there is no room. -/
def refusals (p : Parser) : Registry (Action World) :=
  p.registry.map (·.map fun _ w => (.error (.fault .nestedTooDeep), w))

/-- Expands a text by these actions, and adds the records of the expansion to the
log. -/
def expandBy (p : Parser) (acts : Registry (Action World)) (s : Text) (w : World) : Outcome World :=
  let out := TagExpander.expand acts p.limits s w
  { out with state := { out.state with records := out.state.records ++ out.records } }

/-- Expands a text in the environment of the world. Expansions inside of it nest at
most `depth` levels deep. -/
def expandWithin (p : Parser) : Nat → Text → World → Outcome World
  | 0 => p.expandBy p.refusals
  | depth + 1 =>
    p.expandBy (p.actions ⟨roomFor (depth + 1), respond (p.expandWithin depth)⟩)

/-- The deepest nesting of expansions that the full room admits. -/
def maxDepth : Nat := Room.full / Room.toHandler - 1

theorem roomFor_maxDepth : roomFor maxDepth = Room.full := rfl

def expand (p : Parser) (s : Text) (w : World) : Outcome World :=
  p.expandWithin maxDepth s w

def shown (p : Parser) : Except Fault Text := do
  let iterations ← p.limits.iterations.toValue.shownIn Room.full
  let maxLength ← p.limits.maxLength.toValue.shownIn Room.full
  let maxOutput ← p.limits.maxOutput.toValue.shownIn Room.full
  pure ("<Parser methods=".toList ++ Text.Decimal.ofNat p.registry.size ++ " iterations=".toList ++
    iterations ++ " max_length=".toList ++ maxLength ++ " max_output=".toList ++ maxOutput ++ ['>'])

end Parser

end TagExpander
