import TagExpander.Parser
import TagExpander.Worker

/-! A parser at work: its shared environment, environments of its callers, and
its worker. An expansion is given the shared environment or a caller's one; a job
gets a copy of the shared one, made when it is submitted. -/

namespace TagExpander

structure Session where
  parser : Parser
  world : World
  callers : Table Environment
  worker : Worker

namespace Session

def start (parser : Parser) (callers : Table Environment) (draws : List Nat) : Session :=
  ⟨parser, World.ofEnvironment Table.empty draws, callers, Worker.fresh⟩

def shared (s : Session) : Environment :=
  s.world.shared

def put (s : Session) (key : Text) (v : Value) : Session :=
  { s with world := { s.world with shared := s.world.shared.insert key v } }

def clear (s : Session) : Session :=
  { s with world := { s.world with shared := Table.empty } }

/-- Expands on the shared environment. -/
def parse (s : Session) (input : Text) : Except Fault Text × Session :=
  let out := s.parser.expand input { s.world with own := none }
  (out.answer, { s with world := { out.state with own := none } })

/-- Expands on a caller's environment. -/
def parseFor (s : Session) (caller input : Text) : Except Fault Text × Session :=
  match s.callers.get? caller with
  | none => (.error .missingKey, s)
  | some e =>
    let out := s.parser.expand input { s.world with own := some e }
    (out.answer,
      { s with
        world := { out.state with own := none }
        callers := s.callers.insert caller out.state.here })

def submit (s : Session) (label input : Text) (callback : Callback) : Except Fault Nat × Session :=
  match s.worker.submit label input s.shared callback with
  | .ok (number, w) => (.ok number, { s with worker := w })
  | .error cause => (.error cause, s)

/-- Runs the job that waits longest. Its calls and records are its own. -/
def work (s : Session) : Session :=
  match s.worker.waiting with
  | [] => s
  | job :: rest =>
    let out := s.parser.expand job.input { s.world with own := some job.environment }
    { s with
      world := { s.world with shared := out.state.shared, draws := out.state.draws }
      worker := { s.worker with
        waiting := rest
        history := s.worker.history ++ job.events out.answer out.state.here } }

def close (s : Session) : Session :=
  { s with worker := s.worker.close }

/-- What happens to a session: calls from outside, and the worker taking up a
job. -/
inductive Command where
  | put (key : Text) (v : Value)
  | clear
  | parse (input : Text)
  | parseFor (caller input : Text)
  | submit (label input : Text) (callback : Callback)
  | work
  | close

inductive Reply where
  | done
  | text (answer : Except Fault Text)
  | ticket (number : Except Fault Nat)

def step (s : Session) : Command → Reply × Session
  | .put key v => (.done, s.put key v)
  | .clear => (.done, s.clear)
  | .parse input => (s.parse input).map Reply.text id
  | .parseFor caller input => (s.parseFor caller input).map Reply.text id
  | .submit label input callback => (s.submit label input callback).map Reply.ticket id
  | .work => (.done, s.work)
  | .close => (.done, s.close)

/-- The session after some commands. -/
def after (s : Session) (cs : List Command) : Session :=
  cs.foldl (fun s c => (s.step c).2) s

/-- Runs every job that waits. -/
def workAll (s : Session) : Session :=
  s.after (s.worker.waiting.map fun _ => .work)

/-- Expands a text and closes the worker, also when the expansion faults. -/
def parseAndClose (s : Session) (input : Text) : Except Fault Text × Session :=
  let (answer, s) := s.parse input
  (answer, s.close)

/-- Submits a job, lets the worker run, and gives its result. -/
def parseAside (s : Session) (input : Text) : Except Fault Completion × Session :=
  match s.submit [] input .silent with
  | (.error cause, s) => (.error cause, s)
  | (.ok number, s) =>
    let s := s.workAll
    ((s.worker.result? number).getD (.error .missingKey), s)

/-- Forgets the calls and the records so far. -/
def forget (s : Session) : Session :=
  { s with world := { s.world with diary := [], records := [] } }

end Session

end TagExpander
