import TagExpander.Environment
import TagExpander.Expansion
import TagExpander.Chance

/-! Procedures: what a handler does, step by step. A step reads or writes the
environment that the handler was called with, takes random numbers, asks the
parser for something, or looks at the room that is left for what it does; `perform`
carries the steps out on a world. -/

namespace TagExpander

/-- What a handler may ask its parser for. `parse` works on the shared
environment, `parseHere` on the one that the handler was called with. -/
inductive Request where
  | put (key : Text) (value : Value)
  | clear
  | parse (input : Text)
  | parseHere (input : Text)

inductive Procedure (α : Type) where
  | done (a : α)
  | stop (s : Stop)
  | read (k : Environment → Procedure α)
  | write (e : Environment) (k : Procedure α)
  | draws (k : List Nat → Procedure α)
  | leave (rest : List Nat) (k : Procedure α)
  | ask (r : Request) (k : Text → Procedure α)
  | note (name : Text) (params : Value) (k : Procedure α)
  | measure (k : Nat → Procedure α)

namespace Procedure

variable {α β : Type}

def bind : Procedure α → (α → Procedure β) → Procedure β
  | done a, f => f a
  | stop s, _ => stop s
  | read k, f => read fun e => (k e).bind f
  | write e k, f => write e (k.bind f)
  | draws k, f => draws fun ns => (k ns).bind f
  | leave ns k, f => leave ns (k.bind f)
  | ask r k, f => ask r fun t => (k t).bind f
  | note n p k, f => note n p (k.bind f)
  | measure k, f => measure fun room => (k room).bind f

instance : Monad Procedure where
  pure := done
  bind := bind

def environment : Procedure Environment := read done

def setEnvironment (e : Environment) : Procedure Unit := write e (done ())

/-- A choice that takes random numbers from the front and leaves the others. -/
def chance (f : List Nat → α × List Nat) : Procedure α :=
  draws fun ns => leave (f ns).2 (done (f ns).1)

/-- Asks the parser; the answer is a text. -/
def request (r : Request) : Procedure Text := ask r done

/-- How much room is left. -/
def room : Procedure Nat := measure done

/-- What an operation gives, or else its fault stops the procedure. -/
def orFault : Except Fault α → Procedure α
  | .ok a => done a
  | .error cause => stop (.fault cause)

/-- The text of a value, written one call below the handler. -/
def shown (v : Value) : Procedure Text :=
  measure fun room => orFault (v.shownIn (room - (Room.toHandler + 1)))

end Procedure

/-- All that handlers act on. A run has its own environment or else works on the
shared one. `diary` holds the calls that handlers note, `records` the log. -/
structure World where
  shared : Environment
  own : Option Environment
  draws : List Nat
  diary : List (Text × Value)
  records : List Record

namespace World

/-- The environment of the run at hand. -/
def here (w : World) : Environment :=
  w.own.getD w.shared

def setHere (w : World) (e : Environment) : World :=
  match w.own with
  | none => { w with shared := e }
  | some _ => { w with own := some e }

def ofEnvironment (e : Environment) (draws : List Nat) : World :=
  ⟨e, none, draws, [], []⟩

end World

/-- How requests are answered, and the room that is left for the expansion that a handler
is called by, and for all that nests in it. -/
structure Server where
  room : Nat
  respond : Request → World → Except Fault Text × World

/-- There is no parser to ask. -/
def Server.absent : Server := ⟨Room.full, fun _ w => (.error .missingMember, w)⟩

def Procedure.perform {α : Type} (server : Server) : Procedure α → World → Except Stop α × World
  | done a, w => (.ok a, w)
  | stop s, w => (.error s, w)
  | read k, w => (k w.here).perform server w
  | write e k, w => k.perform server (w.setHere e)
  | draws k, w => (k w.draws).perform server w
  | leave rest k, w => k.perform server { w with draws := rest }
  | ask r k, w =>
    match server.respond r w with
    | (.ok t, w') => (k t).perform server w'
    | (.error cause, w') => (.error (.fault cause), w')
  | note n p k, w => k.perform server { w with diary := w.diary ++ [(n, p)] }
  | measure k, w => (k server.room).perform server w

/-- What an expansion makes of the value that a handler answers with. -/
def Value.answerIn (room : Nat) : Value → Answer
  | .null => .nothing
  | v =>
    match v.shownIn (room - Room.toAnswer) with
    | .ok t => .text t
    | .error cause => .unwritable cause

/-- A handler as an action of its method. -/
def Procedure.act (server : Server) (h : Procedure Value) : Action World := fun w =>
  ((h.perform server w).1.map (·.answerIn server.room), (h.perform server w).2)

namespace Procedure

variable {server : Server} {h : Procedure Value} {w : World}

theorem act_eq_error_iff {stop : Stop} : (h.act server w).1 = .error stop ↔ (h.perform server w).1 = .error stop := by
  unfold act
  cases (h.perform server w).1 <;> simp [Except.map]

theorem act_eq_ok_iff {a : Answer} :
    (h.act server w).1 = .ok a ↔ ∃ v, (h.perform server w).1 = .ok v ∧ v.answerIn server.room = a := by
  unfold act
  cases (h.perform server w).1 <;> simp [Except.map]

theorem act_of_answer {t : Text} {left : World} (hanswer : h.perform server w = (.ok (.text t), left)) :
    h.act server w = (.ok (.text t), left) := by
  rw [act, hanswer]
  rfl

end Procedure

/-- A procedure that is followed by another one does its steps first; if it stops,
the other one is left out. -/
theorem Procedure.perform_bind {α β : Type} (server : Server) (p : Procedure α)
    (f : α → Procedure β) (w : World) :
    (p.bind f).perform server w =
      match p.perform server w with
      | (.ok a, w') => (f a).perform server w'
      | (.error s, w') => (.error s, w') := by
  induction p generalizing w with
  | done a => rfl
  | stop s => rfl
  | read k ih => exact ih w.here w
  | write e k ih => exact ih (w.setHere e)
  | draws k ih => exact ih w.draws w
  | leave rest k ih => exact ih { w with draws := rest }
  | ask r k ih =>
    simp only [bind, perform]
    split
    · next t w' _ => exact ih t w'
    · rfl
  | note n v k ih => exact ih { w with diary := w.diary ++ [(n, v)] }
  | measure k ih => exact ih server.room w

end TagExpander
