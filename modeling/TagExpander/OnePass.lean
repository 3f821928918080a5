import TagExpander.Expansion

/-! Expansion in a single pass over the input, with a stack of the markers that are
open. No character stands in for another: what a method answers is appended as it
is read and not looked at again. Lengths are not limited here. -/

namespace TagExpander.OnePass

variable {σ : Type}

/-- What a pass comes to: the text or what stopped it, the state that is left, and
the calls with the states they were made on. -/
structure Result (σ : Type) where
  answer : Except Stop Text
  state : σ
  calls : List (Call × σ)

/-- What is appended for a marker. The text of an answer is taken as it is when `read`
is the identity; `StandIn.restore` reads the stand-ins in it. -/
def replacement (read : Text → Text) (contents : Text) : Answer → Except Stop Text
  | .nothing => .ok (Marker.braced contents)
  | .text t => .ok (read t)
  | .unwritable cause => .error (.fault cause)

/-- The markers that are still open, written with their braces; the innermost is
`top`, and the outermost text is the last. -/
def written (top : Text) (below : List Text) : Text :=
  below.foldl (fun inner outer => outer ++ '{' :: inner) top

/-- The answer to a call. It is nothing where no method has the name and the form. -/
def reply (reg : Registry (Action σ)) (call : Call) (st : σ) : Except Stop Answer × σ :=
  match Registry.action? reg call with
  | some act => act st
  | none => (.ok .nothing, st)

/-- `budget` is the number of markers that may still be evaluated. -/
def evaluate (read : Text → Text) (reg : Registry (Action σ)) :
    Nat → Bool → Text → List Text → Text → σ → Result σ
  | _, _, top, below, [], st => ⟨.ok (written top below), st, []⟩
  | 0, _, top, below, rest, st => ⟨.ok (written top below ++ rest), st, []⟩
  | budget + 1, escaped, top, below, c :: r, st =>
    if escaped ∨ (c ≠ '{' ∧ c ≠ '}') then
      evaluate read reg (budget + 1) (c = '\\') (top ++ [c]) below r st
    else if c = '{' then evaluate read reg (budget + 1) false [] (top :: below) r st
    else
      match below with
      | [] => ⟨.ok (top ++ c :: r), st, []⟩
      | outer :: below =>
        let call := Call.ofText top
        let (answer, st') := reply reg call st
        match answer >>= replacement read top with
        | .error stop => ⟨.error stop, st', [(call, st)]⟩
        | .ok new =>
          let result := evaluate read reg budget false (outer ++ new) below r st'
          { result with calls := (call, st) :: result.calls }

/-- The answer to an input, cut to the limit of the output. -/
def expand (read : Text → Text) (reg : Registry (Action σ)) (limits : Limits) (input : Text) (st : σ) :
    Except Fault Text × Result σ :=
  let result := evaluate read reg limits.iterations.value false [] [] input st
  match result.answer with
  | .ok text => (.ok (text.take limits.maxOutput.value), result)
  | .error (.abort message) => (.ok message, result)
  | .error (.fault cause) => (.error cause, result)

end TagExpander.OnePass
