/-! Double precision numbers as exact values. A finite number is `± m * 2 ^ q`;
every operation is done on rational numbers and rounded once, to the nearest
double and to the even one of two. The sign of a zero result is not kept. -/

namespace TagExpander

inductive Binary64 where
  | finite (negative : Bool) (m : Nat) (q : Int)
  | infinite (negative : Bool)
  | undefined
deriving DecidableEq, Repr, Inhabited

namespace Binary64

def power (q : Int) : Rat :=
  if 0 ≤ q then Nat.pow 2 q.toNat else 1 / (Nat.pow 2 (-q).toNat : Rat)

/-- The integer nearest to a positive fraction, the even one of two. -/
def nearest (num den : Nat) : Nat :=
  let low := num / den
  let twice := 2 * (num % den)
  if den < twice ∨ (twice = den ∧ low % 2 = 1) then low + 1 else low

/-- The exponent of a positive fraction's last place: 53 binary digits, down to
the smallest exponent. -/
def lastPlace (num den : Nat) : Int :=
  let d : Int := (Nat.log2 num : Int) - (Nat.log2 den : Int)
  let below : Bool := if 0 ≤ d then num < den * Nat.pow 2 d.toNat else num * Nat.pow 2 (-d).toNat < den
  max (if below then d - 53 else d - 52) (-1074)

/-- The double nearest to a positive fraction. -/
def ofFraction (negative : Bool) (num den : Nat) : Binary64 :=
  if num = 0 then finite negative 0 (-1074)
  else
    let q := lastPlace num den
    let m := if 0 ≤ q then nearest num (den * Nat.pow 2 q.toNat) else nearest (num * Nat.pow 2 (-q).toNat) den
    let (m, q) := if m = Nat.pow 2 53 then (Nat.pow 2 52, q + 1) else (m, q)
    if 971 < q then infinite negative else finite negative m q

def ofRat (x : Rat) : Binary64 :=
  ofFraction (x < 0) x.num.natAbs x.den

/-- Reads `digits * 10 ^ exponent`. -/
def ofDecimal (negative : Bool) (digits : Nat) (exponent : Int) : Binary64 :=
  if 0 ≤ exponent then ofFraction negative (digits * Nat.pow 10 exponent.toNat) 1
  else ofFraction negative digits (Nat.pow 10 (-exponent).toNat)

/-- The double nearest to an integer, if the integer is in range. -/
def ofInt? (n : Int) : Option Binary64 :=
  match ofFraction (n < 0) n.natAbs 1 with
  | infinite _ => none
  | x => some x

/-- The exact value of a finite number. -/
def toRat? : Binary64 → Option Rat
  | finite negative m q => some ((if negative then -1 else 1) * m * power q)
  | _ => none

def isNegative : Binary64 → Bool
  | finite negative m _ => negative && m != 0
  | infinite negative => negative
  | undefined => false

def isZero : Binary64 → Bool
  | finite _ m _ => m == 0
  | _ => false

def neg : Binary64 → Binary64
  | finite negative m q => finite (!negative) m q
  | infinite negative => infinite (!negative)
  | undefined => undefined

def truncateRat (x : Rat) : Int :=
  Int.tdiv x.num x.den

/-- The integer part, of a finite number. -/
def truncate? (x : Binary64) : Option Int :=
  x.toRat?.map truncateRat

def add (x y : Binary64) : Binary64 :=
  match x, y with
  | undefined, _ => undefined
  | _, undefined => undefined
  | infinite a, infinite b => if a = b then infinite a else undefined
  | infinite a, _ => infinite a
  | _, infinite b => infinite b
  | x, y => ofRat (x.toRat?.getD 0 + y.toRat?.getD 0)

def sub (x y : Binary64) : Binary64 :=
  add x y.neg

def mul (x y : Binary64) : Binary64 :=
  match x.toRat?, y.toRat? with
  | some a, some b => ofRat (a * b)
  | _, _ =>
    if x = undefined ∨ y = undefined ∨ x.isZero ∨ y.isZero then undefined
    else infinite (x.isNegative != y.isNegative)

/-- The quotient, for a divisor other than zero. -/
def div (x y : Binary64) : Binary64 :=
  match x.toRat?, y.toRat? with
  | some a, some b => ofRat (a / b)
  | some _, none => if y = undefined then undefined else finite false 0 (-1074)
  | none, some _ => if x = undefined then undefined else infinite (x.isNegative != y.isNegative)
  | none, none => undefined

/-- The remainder of truncating division, which is exact. -/
def rem (x y : Binary64) : Binary64 :=
  match x.toRat?, y.toRat? with
  | some a, some b => ofRat (a - b * truncateRat (a / b))
  | some _, none => if y = undefined then undefined else x
  | none, _ => undefined

/-- The remainder with the sign of the divisor. -/
def floorMod (x y : Binary64) : Binary64 :=
  let r := rem x y
  if !r.isZero && r.isNegative != y.isNegative then r.add y else r

def floor (x : Binary64) : Binary64 :=
  match x.toRat? with
  | some a => ofRat a.floor
  | none => x

/-- The quotient rounded down: the exact multiple that is left without the
remainder is divided, then the result is put on the nearest integer. -/
def floorDiv (x y : Binary64) : Binary64 :=
  let r := rem x y
  let q := (x.sub r).div y
  let q := if !r.isZero && r.isNegative != y.isNegative then q.sub (finite false 1 0) else q
  match q.toRat? with
  | some a => if 1 / 2 < a - a.floor then ofRat (a.floor + 1) else ofRat a.floor
  | none => q.floor

/-- The order, if neither is undefined. -/
def compare? (x y : Binary64) : Option Ordering :=
  match x.toRat?, y.toRat? with
  | some a, some b => some (if a < b then .lt else if a = b then .eq else .gt)
  | _, _ =>
    if x = undefined ∨ y = undefined then none
    else if x = y then some .eq
    else match x, y with
      | infinite negative, _ => some (if negative then .lt else .gt)
      | _, infinite negative => some (if negative then .gt else .lt)
      | _, _ => none

end Binary64

end TagExpander
