import TagExpander.Dice.Fault
import TagExpander.Number.Shortest

/-! Amounts that dice expressions compute: integers of any size, and doubles. An
integer meets a double as the nearest double, except in comparisons, which are
exact. -/

namespace TagExpander.Dice

inductive Amount where
  | int (n : Int)
  | float (x : Binary64)
deriving DecidableEq, Repr, Inhabited

inductive Sign where
  | plus
  | minus
deriving DecidableEq, Repr

inductive Arithmetic where
  | add
  | sub
  | mul
  | div
  | floorDiv
  | mod
deriving DecidableEq, Repr

inductive Comparison where
  | eq
  | ne
  | le
  | ge
  | lt
  | gt
deriving DecidableEq, Repr

inductive Operator where
  | arithmetic (o : Arithmetic)
  | comparison (c : Comparison)
deriving DecidableEq, Repr

namespace Sign

def shown : Sign → Text
  | plus => ['+']
  | minus => ['-']

def apply : Sign → Amount → Amount
  | plus, a => a
  | minus, .int n => .int (-n)
  | minus, .float x => .float x.neg

end Sign

namespace Amount

def shown : Amount → Text
  | int n => Text.Decimal.ofInt n
  | float x => x.text

/-- Every amount but an undefined one has its place in the order. -/
def isOrdered : Amount → Bool
  | int _ => true
  | float x => x ≠ .undefined

def toDouble : Amount → Except Fault Binary64
  | int n =>
    match Binary64.ofInt? n with
    | some x => .ok x
    | none => .error (.number .outOfRange)
  | float x => .ok x

/-- The exact order of two amounts, unless one is undefined. -/
def compare? : Amount → Amount → Option Ordering
  | int a, int b => some (compare a b)
  | float x, float y => x.compare? y
  | int a, float y =>
    match y.toRat? with
    | some b => some (if (a : Rat) < b then .lt else if (a : Rat) = b then .eq else .gt)
    | none => (Binary64.ofDecimal false 0 0).compare? y
  | float x, int b =>
    match x.toRat? with
    | some a => some (if a < (b : Rat) then .lt else if a = (b : Rat) then .eq else .gt)
    | none => x.compare? (Binary64.ofDecimal false 0 0)

def lt (a b : Amount) : Bool :=
  a.compare? b == some .lt

def same (a b : Amount) : Bool :=
  a.compare? b == some .eq

/-- The quotient of two integers as a double, rounded once. -/
def quotient (a b : Int) : Except Fault Amount :=
  match Binary64.ofFraction ((a < 0) != (b < 0)) a.natAbs b.natAbs with
  | .infinite _ => .error (.number .outOfRange)
  | x => .ok (float x)

/-- The integer part. -/
def truncate : Amount → Except Fault Int
  | int n => .ok n
  | float .undefined => .error (.number .undefined)
  | float x =>
    match x.truncate? with
    | some n => .ok n
    | none => .error (.number .outOfRange)

end Amount

namespace Arithmetic

def shown : Arithmetic → Text
  | add => ['+']
  | sub => ['-']
  | mul => ['*']
  | div => ['/']
  | floorDiv => ['/', '/']
  | mod => ['%']

def isDivision : Arithmetic → Bool
  | div | floorDiv | mod => true
  | _ => false

/-- Integers stay exact, but for the quotient. Floors go down, and remainders have
the sign of the divisor. -/
def onIntegers (o : Arithmetic) (a b : Int) : Except Fault Amount :=
  match o with
  | add => .ok (.int (a + b))
  | sub => .ok (.int (a - b))
  | mul => .ok (.int (a * b))
  | div => Amount.quotient a b
  | floorDiv => .ok (.int (a.fdiv b))
  | mod => .ok (.int (a.fmod b))

def onDoubles (o : Arithmetic) (x y : Binary64) : Binary64 :=
  match o with
  | add => x.add y
  | sub => x.sub y
  | mul => x.mul y
  | div => x.div y
  | floorDiv => x.floorDiv y
  | mod => x.floorMod y

/-- Division by zero is a fault. If one amount is a double, the other has to fit
into one first. -/
def apply (o : Arithmetic) : Amount → Amount → Except Fault Amount
  | .int a, .int b =>
    if o.isDivision && b == 0 then .error .divisionByZero else o.onIntegers a b
  | a, b => do
    let x ← a.toDouble
    let y ← b.toDouble
    if o.isDivision && y.isZero then .error .divisionByZero
    else .ok (.float (o.onDoubles x y))

end Arithmetic

namespace Comparison

def shown : Comparison → Text
  | eq => ['=', '=']
  | ne => ['!', '=']
  | le => ['<', '=']
  | ge => ['>', '=']
  | lt => ['<']
  | gt => ['>']

def holds (c : Comparison) (a b : Amount) : Bool :=
  match c with
  | eq => a.same b
  | ne => !a.same b
  | le => a.lt b || a.same b
  | ge => b.lt a || a.same b
  | lt => a.lt b
  | gt => b.lt a

end Comparison

namespace Operator

def shown : Operator → Text
  | arithmetic o => o.shown
  | comparison c => c.shown

/-- A comparison gives one or zero. -/
def apply (op : Operator) (a b : Amount) : Except Fault Amount :=
  match op with
  | arithmetic o => o.apply a b
  | comparison c => .ok (.int (if c.holds a b then 1 else 0))

end Operator

end TagExpander.Dice
