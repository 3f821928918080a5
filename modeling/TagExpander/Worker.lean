import TagExpander.Fault
import TagExpander.Environment

/-! The worker of a parser. Jobs wait in the order in which they were submitted,
each with the environment as it was then. The history says what became of them. -/

namespace TagExpander

/-- What is called with a completed job: nothing, a listener, or a listener that
faults. -/
inductive Callback where
  | silent
  | listen
  | faulty
deriving DecidableEq, Repr

structure Job where
  number : Nat
  label : Text
  input : Text
  environment : Environment
  callback : Callback

/-- The text a job has parsed, and the environment it left. -/
structure Completion where
  parsed : Text
  environment : Environment

inductive Event where
  | started (job : Job)
  | called (job : Job) (completion : Completion)
  | ended (job : Job) (result : Except Fault Completion)

structure Worker where
  submitted : Nat
  waiting : List Job
  history : List Event
  isOpen : Bool

namespace Job

/-- What happens from the start of a job to its end. The callback comes after
the expansion and only if that gave a text; a callback's fault is the result. -/
def events (job : Job) (answer : Except Fault Text) (left : Environment) : List Event :=
  match answer with
  | .error cause => [.started job, .ended job (.error cause)]
  | .ok parsed =>
    let c : Completion := ⟨parsed, left⟩
    match job.callback with
    | .silent => [.started job, .ended job (.ok c)]
    | .listen => [.started job, .called job c, .ended job (.ok c)]
    | .faulty => [.started job, .called job c, .ended job (.error .missingKey)]

end Job

namespace Worker

def fresh : Worker := ⟨0, [], [], true⟩

/-- Adds a job at the end, unless the worker is closed. -/
def submit (w : Worker) (label input : Text) (environment : Environment) (callback : Callback) :
    Except Fault (Nat × Worker) :=
  if w.isOpen then
    let job : Job := ⟨w.submitted, label, input, environment, callback⟩
    .ok (job.number, { w with submitted := w.submitted + 1, waiting := w.waiting ++ [job] })
  else .error .workerClosed

def close (w : Worker) : Worker := { w with isOpen := false }

/-- The result of a job that has ended. -/
def result? (w : Worker) (number : Nat) : Option (Except Fault Completion) :=
  w.history.findSome? fun
    | .ended job r => if job.number = number then some r else none
    | _ => none

/-- What the listeners heard, in order. -/
def heard (w : Worker) : List (Text × Text) :=
  w.history.filterMap fun
    | .called job c => some (job.label, c.parsed)
    | _ => none

end Worker

end TagExpander
