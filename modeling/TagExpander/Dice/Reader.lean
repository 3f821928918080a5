import TagExpander.Dice.Expr

/-! Reads dice expressions. Comparisons bind weakest, then sums, products and
signs; operators of one level associate to the left. Gaps may follow operators and
operands, and the opening of a set, but not the parts of a die. A numeral without
a point may have too many digits, and then the reading stops there. -/

namespace TagExpander.Dice.Reader

/-- Reads from the front of a text, or fails. -/
abbrev Reading := StateT Text (Except Fault)

def refuse {α : Type} : Reading α :=
  throw .unexpectedInput

def isGap (c : Char) : Bool :=
  c = ' ' || c = '\t' || c = '\x0c' || c = '\r' || c = '\n'

def skip : Reading Unit :=
  modify (·.dropWhile isGap)

def takeDigits : Reading Text := do
  let s ← get
  set (s.dropWhile Char.isDigit)
  pure (s.takeWhile Char.isDigit)

def valueOf (digits : Text) : Nat :=
  digits.foldl (fun n c => n * 10 + (c.toNat - '0'.toNat)) 0

/-- At least one digit. -/
def digits : Reading Text := do
  let ds ← takeDigits
  if ds.isEmpty then refuse else pure ds

/-- The integer that digits stand for, if there are not too many. -/
def integer (ds : Text) : Reading Nat :=
  if Text.Decimal.maxDigits < ds.length then throw (.number .tooManyDigits) else pure (valueOf ds)

def nat : Reading Nat := do
  integer (← digits)

/-- Passes over a text if it comes next. -/
def accept (t : Text) : Reading Bool := do
  let s ← get
  if t.isPrefixOf s then
    set (s.drop t.length)
    pure true
  else pure false

/-- Passes over the first of the texts that comes next, and gives what it stands
for. -/
def oneOf {α : Type} : List (Text × α) → Reading (Option α)
  | [] => pure none
  | (t, a) :: r => do
    if ← accept t then pure (some a) else oneOf r

def criteria : List (Text × Criterion) :=
  [(['l'], .lowest), (['h'], .highest), (['<'], .below), (['>'], .above)]

def selector : Reading Selector := do
  let c ← oneOf criteria
  let n ← nat
  pure ⟨c.getD .equal, n⟩

def setVerbs : List (Text × Verb) :=
  [(['k'], .keep), (['p'], .drop)]

def diceVerbs : List (Text × Verb) :=
  [(['r', 'r'], .reroll), (['r', 'o'], .rerollOnce), (['r', 'a'], .explodeOnce), (['e'], .explode),
   (['m', 'i'], .minimum), (['m', 'a'], .maximum)] ++ setVerbs

/-- A verb has to be followed by a selector. -/
def operationsFrom (verbs : List (Text × Verb)) : Nat → Reading (List Operation)
  | 0 => refuse
  | fuel + 1 => do
    match ← oneOf verbs with
    | none => pure []
    | some v => do
      let s ← selector
      let os ← operationsFrom verbs fuel
      pure (⟨v, [s]⟩ :: os)

def operations (verbs : List (Text × Verb)) : Reading (List Operation) := do
  let s ← get
  let os ← operationsFrom verbs (s.length + 1)
  pure (Operation.merged os)

/-- The sides of a die; there are digits where it is not a percent sign. -/
def sides : Reading Text := do
  if ← accept ['%'] then pure [] else digits

/-- What follows the letter of a die. The count in front of it may be left out. -/
def dice (count : Text) : Reading Expr := do
  let s ← sides
  let c ← if count.isEmpty then pure 1 else integer count
  let s ← if s.isEmpty then pure Sides.percent else Sides.count <$> integer s
  let os ← operations diceVerbs
  pure (.dice c s os)

def decimal (whole places : Text) : Expr :=
  .number (.float (Binary64.ofDecimal false (valueOf (whole ++ places)) (-places.length)))

/-- A number, or dice whose count it is. -/
def numeral : Reading Expr := do
  let whole ← takeDigits
  if ← accept ['d'] then dice whole
  else if ← accept ['.'] then
    let places ← if whole.isEmpty then digits else takeDigits
    pure (decimal whole places)
  else if whole.isEmpty then refuse
  else
    let n ← integer whole
    pure (.number (.int n))

inductive Level where
  | operand
  | product
  | sum
  | comparison

def Level.next : Level → Level
  | comparison => sum
  | sum => product
  | _ => operand

/-- Longer operators come before their beginnings. -/
def Level.operators : Level → List (Text × Operator)
  | comparison =>
    [(['=', '='], .comparison .eq), (['>', '='], .comparison .ge), (['<', '='], .comparison .le),
     (['!', '='], .comparison .ne), (['<'], .comparison .lt), (['>'], .comparison .gt)]
  | sum => [(['+'], .arithmetic .add), (['-'], .arithmetic .sub)]
  | product =>
    [(['*'], .arithmetic .mul), (['/', '/'], .arithmetic .floorDiv), (['/'], .arithmetic .div),
     (['%'], .arithmetic .mod)]
  | operand => []

def signs : List (Text × Sign) :=
  [(['+'], .plus), (['-'], .minus)]

def inAnnotation (c : Char) : Bool :=
  c ≠ ']' && c ≠ '\n'

/-- Annotations one after the other, without the gaps between them. -/
def annotations : Nat → Reading Text
  | 0 => refuse
  | fuel + 1 => do
    if ← accept ['['] then
      let s ← get
      set (s.dropWhile inAnnotation)
      if ← accept [']'] then
        skip
        let more ← annotations fuel
        pure ('[' :: s.takeWhile inAnnotation ++ ']' :: more)
      else refuse
    else pure []

def annotate (e : Expr) : Reading Expr := do
  skip
  let s ← get
  let a ← annotations (s.length + 1)
  pure (if a.isEmpty then e else .annotated e a)

mutual

def expr : Nat → Level → Reading Expr
  | 0, _ => refuse
  | fuel + 1, .operand => do
    match ← oneOf signs with
    | some s => do
      skip
      let e ← expr fuel .operand
      pure (.signed s e)
    | none => do
      let e ← if ← accept ['('] then parenthesis fuel else numeral
      annotate e
  | fuel + 1, level => do
    let l ← expr fuel level.next
    chain fuel level l

/-- More operands of one level. -/
def chain : Nat → Level → Expr → Reading Expr
  | 0, _, _ => refuse
  | fuel + 1, level, l => do
    match ← oneOf level.operators with
    | none => pure l
    | some op => do
      skip
      let r ← expr fuel level.next
      chain fuel level (.binary l op r)

/-- What follows an opening parenthesis. One member without a comma is no set. -/
def parenthesis : Nat → Reading Expr
  | 0 => refuse
  | fuel + 1 => do
    skip
    if ← accept [')'] then
      let os ← operations setVerbs
      pure (.set [] os)
    else
      let m ← expr fuel .comparison
      if ← accept [')'] then
        let os ← operations setVerbs
        pure (.paren m os)
      else
        let ms ← members fuel
        let os ← operations setVerbs
        pure (.set (m :: ms) os)

/-- The members after the first, each behind its comma, to the end of the set. -/
def members : Nat → Reading (List Expr)
  | 0 => refuse
  | fuel + 1 => do
    if ← accept [')'] then pure []
    else if ← accept [',', ')'] then pure []
    else if ← accept [','] then
      skip
      let m ← expr fuel .comparison
      let ms ← members fuel
      pure (m :: ms)
    else refuse

end

/-- The whole text as an expression. No step is nested deeper than eight times
the length of the text. -/
def read (s : Text) : Except Fault Expr := do
  match ← (expr (8 * s.length + 8) .comparison).run s with
  | (e, []) => pure e
  | _ => throw .unexpectedInput

end TagExpander.Dice.Reader
