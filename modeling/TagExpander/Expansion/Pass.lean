import TagExpander.Marker

/-! Passes over a text. A pass replaces the first marker by its method's answer,
innermost first, and passes follow one another until no marker is left or a limit
is reached. Answers are shielded, so they are never searched for markers. A method
may stop, and what it answers may have no text; either ends the passes. The
environment is one case of the state `σ` that actions work on. -/

namespace TagExpander

/-- What a method answers a marker with, as far as an expansion looks at it: nothing, or
something that has a text, or something whose text cannot be written. -/
inductive Answer where
  | nothing
  | text (t : Text)
  | unwritable (cause : Fault)

def Answer.text? : Answer → Option Text
  | text t => some t
  | _ => none

/-- An action of a method, on any kind of state. It keeps what it changed also
when it stops. -/
abbrev Action (σ : Type) := σ → Except Stop Answer × σ

/-- A marker that was evaluated: its contents, what follows it, the length of
the text it stood in, and the state that its method was called on. -/
structure Visit (σ : Type) where
  contents : Text
  after : Text
  length : Nat
  state : σ

/-- Why no further pass is made: the last one changed nothing, or a limit is
reached. -/
inductive Halt where
  | settled
  | outOfIterations
  | tooLong
deriving DecidableEq, Repr

inductive Ending where
  | reached (halt : Halt) (text : Text)
  | aborted (contents message : Text)
  | faulted (cause : Fault)

def Ending.ofStop (contents : Text) : Stop → Ending
  | .abort message => .aborted contents message
  | .fault cause => .faulted cause

structure Run (σ : Type) where
  ending : Ending
  state : σ
  visits : List (Visit σ)

/-- A run that begins with a visit. -/
def Run.cons {σ : Type} (visit : Visit σ) (run : Run σ) : Run σ :=
  { run with visits := visit :: run.visits }

namespace Expansion

variable {σ : Type}

/-- What a marker is replaced by, shielded. A marker that is answered with nothing, like
one of an unknown name, stays as it is written. -/
def replacement (contents : Text) : Answer → Except Stop Text
  | .nothing => .ok (StandIn.shield (Marker.braced contents))
  | .text t => .ok (StandIn.shield t)
  | .unwritable cause => .error (.fault cause)

/-- The method's answer to a marker. -/
def dispatch (reg : Registry (Action σ)) (contents : Text) (st : σ) : Except Stop Answer × σ :=
  match Registry.action? reg (Call.ofContents contents) with
  | some act => act st
  | none => (.ok .nothing, st)

/-- Evaluates a marker: asks its method, and then writes what the marker is replaced by. -/
def substitute (reg : Registry (Action σ)) (contents : Text) (st : σ) : Except Stop Text × σ :=
  ((dispatch reg contents st).1 >>= replacement contents, (dispatch reg contents st).2)

section Substitute

variable {reg : Registry (Action σ)} {contents : Text} {st st' : σ}

theorem substitute_eq_ok_iff {new : Text} : substitute reg contents st = (.ok new, st') ↔
    ∃ a, dispatch reg contents st = (.ok a, st') ∧ replacement contents a = .ok new := by
  unfold substitute
  rcases dispatch reg contents st with ⟨stop | a, left⟩
  · simp [bind, Except.bind]
  · simp [bind, Except.bind, and_assoc, and_comm]

/-- A marker cannot be evaluated if its method stops, or if what it answers has no text. -/
theorem substitute_eq_error_iff {stop : Stop} : substitute reg contents st = (.error stop, st') ↔
    dispatch reg contents st = (.error stop, st') ∨
      ∃ cause, dispatch reg contents st = (.ok (.unwritable cause), st') ∧ stop = .fault cause := by
  unfold substitute
  rcases dispatch reg contents st with ⟨s | a, left⟩
  · simp [bind, Except.bind]
  · cases a <;> simp [bind, Except.bind, replacement, and_assoc, and_comm, eq_comm]

end Substitute

/-- One pass over a text. -/
inductive Pass (σ : Type) where
  | idle
  | rewrote (visit : Visit σ) (text : Text) (state : σ)
  | stopped (visit : Visit σ) (stop : Stop) (state : σ)

def pass (reg : Registry (Action σ)) (text : Text) (st : σ) : Pass σ :=
  match Marker.first? text with
  | none => .idle
  | some m =>
    let visit : Visit σ := ⟨m.contents, m.after, text.length, st⟩
    match substitute reg m.contents st with
    | (.ok new, st') => .rewrote visit (m.before ++ (new ++ m.after)) st'
    | (.error stop, st') => .stopped visit stop st'

/-- Passes over `text` while the last pass changed it (`last` is the text before
that pass), passes are left and the text is within `maxLength`. -/
def passes (reg : Registry (Action σ)) (maxLength : Nat) : Nat → Text → Text → σ → Run σ
  | 0, last, text, st =>
    if text = last then ⟨.reached .settled text, st, []⟩ else ⟨.reached .outOfIterations text, st, []⟩
  | n + 1, last, text, st =>
    if text = last then ⟨.reached .settled text, st, []⟩
    else if maxLength < text.length then ⟨.reached .tooLong text, st, []⟩
    else
      match pass reg text st with
      | .idle => passes reg maxLength n text text st
      | .stopped visit stop st' => ⟨Ending.ofStop visit.contents stop, st', [visit]⟩
      | .rewrote visit text' st' =>
        (passes reg maxLength n text text' st').cons visit

end Expansion

end TagExpander
