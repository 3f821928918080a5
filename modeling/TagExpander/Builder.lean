import TagExpander.Parser

/-! Builders collect methods and limits. A limit may be set from anything that
stands for a positive integer: a number, a numeral, a flag, or a fraction, which
is truncated. -/

namespace TagExpander

/-- The integer that a value stands for, if it stands for one. An infinite number is
out of the range of integers. -/
def Value.toInt? : Value → Except NumberFault (Option Int)
  | .int n => .ok (some n)
  | .bool b => .ok (some (if b then 1 else 0))
  | .float (.infinite _) => .error .outOfRange
  | .float x => .ok x.truncate?
  | .text s => .ok (Text.Decimal.readInt? s)
  | _ => .ok none

/-- Why a value is refused. The message shows the value, and if it cannot be written, this
is what goes wrong. -/
def Value.refusal (v : Value) (argument : Text → InvalidArgument) : Fault :=
  match v.quotedIn Room.full with
  | .ok t => .invalidArgument (argument t)
  | .error cause => cause

/-- A limit as it is given to a parser: a positive number, or `true`. -/
def Limit.ofValue (name : LimitName) (v : Value) : Except Fault Limit :=
  match v with
  | .int n =>
    if h : 0 < n then .ok ⟨n.toNat, false, by omega⟩
    else .error (v.refusal (.notPositive name))
  | .bool true => .ok Limit.flagged
  | .bool false => .error (v.refusal (.notPositive name))
  | _ => .error .badType

/-- The first limit that is wrong is the one that is reported. -/
def Limits.ofValues (iterations maxLength maxOutput : Value) : Except Fault Limits := do
  let i ← Limit.ofValue .iterations iterations
  let l ← Limit.ofValue .maxLength maxLength
  let o ← Limit.ofValue .maxOutput maxOutput
  pure ⟨i, l, o⟩

/-- A parser and the records of its construction. -/
def Parser.build (methods : List (Method Handler)) (limits : Limits) : Parser × List Record :=
  let (registry, records) := Registry.build methods
  (⟨registry, limits⟩, records)

structure Builder where
  methods : List (Method Handler)
  iterations : Int
  maxLength : Int
  maxOutput : Int

namespace Builder

def fresh (iterations maxLength maxOutput : Int) : Builder :=
  ⟨[], iterations, maxLength, maxOutput⟩

def standard : Builder := fresh 1000 40000 2000

def add (b : Builder) (m : Method Handler) : Builder :=
  { b with methods := b.methods ++ [m] }

/-- What is offered as a method: one, or some other value. -/
abbrev Offer := Except Value (Method Handler)

/-- Adds the methods before the first offer that is none. -/
def addAll (b : Builder) : List Offer → Except Fault Unit × Builder
  | [] => (.ok (), b)
  | .ok m :: r => (b.add m).addAll r
  | .error v :: _ => (.error (.invalidArgument (.notMethod v)), b)

def setLimit (b : Builder) (name : LimitName) (n : Int) : Builder :=
  match name with
  | .iterations => { b with iterations := n }
  | .maxLength => { b with maxLength := n }
  | .maxOutput => { b with maxOutput := n }

/-- Sets a limit, or leaves the builder as it was. -/
def set (b : Builder) (name : LimitName) (v : Value) : Except Fault Unit × Builder :=
  match v.toInt? with
  | .error cause => (.error (.number cause), b)
  | .ok none => (.error (v.refusal (.notInteger name)), b)
  | .ok (some n) =>
    if n ≤ 0 then (.error ((Value.int n).refusal (.notPositive name)), b)
    else (.ok (), b.setLimit name n)

inductive Change where
  | add (offers : List Offer)
  | set (name : LimitName) (v : Value)

def apply (b : Builder) : Change → Except Fault Unit × Builder
  | .add offers => b.addAll offers
  | .set name v => b.set name v

/-- The parser of the methods and limits so far. -/
def build (b : Builder) : Except Fault (Parser × List Record) := do
  let limits ← Limits.ofValues (.int b.iterations) (.int b.maxLength) (.int b.maxOutput)
  pure (Parser.build b.methods limits)

end Builder

end TagExpander
