import TagExpander.Expansion.Sweep

/-! Expansion of a text: a run over its hidden form, and what the run comes to as an
answer and as records. -/

namespace TagExpander

namespace Expansion

variable {σ : Type}

def run (reg : Registry (Action σ)) (limits : Limits) (input : Text) (st : σ) : Run σ :=
  sweepAll reg limits.maxLength.value limits.iterations.value (StandIn.hide input) st

/-- A run makes one pass after the other. -/
theorem run_eq_passes (reg : Registry (Action σ)) (limits : Limits) (input : Text) (st : σ) :
    run reg limits input st =
      passes reg limits.maxLength.value limits.iterations.value [] (StandIn.hide input) st :=
  sweepAll_eq_passes reg _ _ _ st

/-- The record of a run that was halted by a limit. -/
def haltRecords (limits : Limits) (text : Text) : Halt → List Record
  | .settled => []
  | .outOfIterations => [.stoppedAfter limits.iterations.value]
  | .tooLong => [.stoppedAtLength text.length limits.maxLength]

/-- The text that is answered, cut to its limit, and the record of the cut. -/
def cut (limit : Limit) (text : Text) : Text × List Record :=
  if limit.value < text.length then (text.take limit.value, [.truncated text.length limit])
  else (text, [])

/-- The answer of a run: the text it reached, or the message of the method that
aborted it. -/
def answer (limits : Limits) : Ending → Except Fault Text × List Record
  | .reached halt text =>
    let (shown, records) := cut limits.maxOutput (StandIn.restore text)
    (.ok shown, haltRecords limits text halt ++ records)
  | .aborted contents message => (.ok message, [.aborted contents message])
  | .faulted cause => (.error cause, [])

end Expansion

/-- An expansion's answer, its records in order, the state it leaves and the
markers it evaluated. -/
structure Outcome (σ : Type) where
  answer : Except Fault Text
  records : List Record
  state : σ
  visits : List (Visit σ)

def expand {σ : Type} (reg : Registry (Action σ)) (limits : Limits) (input : Text) (st : σ) :
    Outcome σ :=
  let run := Expansion.run reg limits input st
  let (answer, records) := Expansion.answer limits run.ending
  ⟨answer, records, run.state, run.visits⟩

end TagExpander
