import TagExpander.Number.Binary64
import TagExpander.Text.Decimal

/-! The shortest decimal text of a double: the fewest digits that read back as the
same number, of two such numerals the nearer, of two as near the even one. -/

namespace TagExpander.Binary64

/-- The largest `k` with `10 ^ k ≤ num / den`, for a positive fraction. -/
def decimalExponent (num den : Nat) : Int :=
  let k : Int := ((Nat.toDigits 10 num).length : Int) - ((Nat.toDigits 10 den).length : Int)
  let reaches : Bool := if 0 ≤ k then den * Nat.pow 10 k.toNat ≤ num else den ≤ num * Nat.pow 10 (-k).toNat
  if reaches then k else k - 1

def tenPower (k : Int) : Rat :=
  if 0 ≤ k then Nat.pow 10 k.toNat else 1 / (Nat.pow 10 (-k).toNat : Rat)

/-- The numbers that round to `m * 2 ^ q`, their ends apart. -/
def roundingInterval (m : Nat) (q : Int) : Rat × Rat :=
  let unit := power q
  let below := if m = Nat.pow 2 52 ∧ -1074 < q then unit / 4 else unit / 2
  (m * unit - below, m * unit + unit / 2)

/-- The better of the two neighbours of `x` on the grid of step `10 ^ k`, if one
of them rounds to `m * 2 ^ q`. -/
def gridNumeral? (m : Nat) (q k : Int) (x : Rat) : Option Nat :=
  let (low, high) := roundingInterval m q
  let closed := m % 2 = 0
  let step := tenPower k
  let a := (x / step).floor.toNat
  let fits (n : Nat) : Bool :=
    let y := (n : Rat) * step
    if closed then low ≤ y && y ≤ high else low < y && y < high
  let gapBelow := x - a * step
  let gapAbove := (a + 1 : Nat) * step - x
  match fits a, fits (a + 1) with
  | true, true =>
    if gapBelow < gapAbove ∨ (gapBelow = gapAbove ∧ a % 2 = 0) then some a else some (a + 1)
  | true, false => some a
  | false, true => some (a + 1)
  | false, false => none

/-- Tries one digit more at a time; seventeen are always enough. -/
def searchNumeral (m : Nat) (q e : Int) (x : Rat) : Nat → Nat → Nat × Int
  | _, 0 => ((x / tenPower (e - 16)).floor.toNat, e - 16)
  | digits, tries + 1 =>
    let k := e - digits + 1
    match gridNumeral? m q k x with
    | some n => (n, k)
    | none => searchNumeral m q e x (digits + 1) tries

/-- Digits without zeros at their end, and the exponent of the last of them. -/
def dropZeros : Nat → Nat → Int → Nat × Int
  | 0, n, k => (n, k)
  | fuel + 1, n, k => if n ≠ 0 ∧ n % 10 = 0 then dropZeros fuel (n / 10) (k + 1) else (n, k)

/-- The shortest numeral `n * 10 ^ k` of `m * 2 ^ q`. -/
def shortest (m : Nat) (q : Int) : Nat × Int :=
  let x := (m : Rat) * power q
  let (n, k) := searchNumeral m q (decimalExponent x.num.natAbs x.den) x 1 17
  dropZeros 400 n k

/-- How digits are laid out: positional if the first digit's exponent is from
`low` to `high - 1`, and with at least `exponentDigits` digits of exponent
otherwise. -/
structure NumeralLayout where
  low : Int
  high : Int
  exponentDigits : Nat

/-- Numbers from one ten-thousandth up to below `10 ^ 16` are positional, with at
least one digit after the point. -/
def layout : NumeralLayout := ⟨-4, 16, 2⟩

def layOut (style : NumeralLayout) (n : Nat) (k : Int) : Text :=
  let digits := Text.Decimal.ofNat n
  let first : Int := k + digits.length - 1
  if style.low ≤ first ∧ first < style.high then
    if 0 ≤ k then digits ++ List.replicate k.toNat '0' ++ ['.', '0']
    else if 0 ≤ first then
      let whole := first.toNat + 1
      digits.take whole ++ '.' :: digits.drop whole
    else '0' :: '.' :: List.replicate (-first - 1).toNat '0' ++ digits
  else
    let mantissa := match digits with
      | d :: r@(_ :: _) => d :: '.' :: r
      | short => short
    mantissa ++ ['e', if first < 0 then '-' else '+'] ++
      Text.Decimal.padded style.exponentDigits first.natAbs

def text : Binary64 → Text
  | undefined => "nan".toList
  | infinite negative => (if negative then ['-'] else []) ++ "inf".toList
  | finite negative m q =>
    (if negative then ['-'] else []) ++
      if m = 0 then "0.0".toList else let (n, k) := shortest m q; layOut layout n k

end TagExpander.Binary64
