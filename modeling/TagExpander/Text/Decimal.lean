import TagExpander.Text.Blank

/-! Decimal numerals. Numbers are written with the ten ASCII digits; a numeral
that is read may use the decimal digits of any script, single underscores
between digits, one sign, and spaces around it. A numeral has a largest number of
digits, leading zeros included. -/

namespace TagExpander.Text.Decimal

/-- The zeros of the scripts that have decimal digits; the other nine digits
follow each zero. -/
def zeros : List Nat :=
  [0x0030, 0x0660, 0x06F0, 0x07C0, 0x0966, 0x09E6, 0x0A66, 0x0AE6, 0x0B66, 0x0BE6, 0x0C66, 0x0CE6,
   0x0D66, 0x0DE6, 0x0E50, 0x0ED0, 0x0F20, 0x1040, 0x1090, 0x17E0, 0x1810, 0x1946, 0x19D0, 0x1A80,
   0x1A90, 0x1B50, 0x1BB0, 0x1C40, 0x1C50, 0xA620, 0xA8D0, 0xA900, 0xA9D0, 0xA9F0, 0xAA50, 0xABF0,
   0xFF10, 0x104A0, 0x10D30, 0x11066, 0x110F0, 0x11136, 0x111D0, 0x112F0, 0x11450, 0x114D0,
   0x11650, 0x116C0, 0x11730, 0x118E0, 0x11950, 0x11C50, 0x11D50, 0x11DA0, 0x16A60, 0x16AC0,
   0x16B50, 0x1D7CE, 0x1D7D8, 0x1D7E2, 0x1D7EC, 0x1D7F6, 0x1E140, 0x1E2F0, 0x1E950, 0x1FBF0]

def digit? (c : Char) : Option Nat :=
  (zeros.find? fun z => z ≤ c.toNat && c.toNat ≤ z + 9).map (c.toNat - ·)

def ofNat (n : Nat) : Text :=
  Nat.toDigits 10 n

def ofInt (n : Int) : Text :=
  if n < 0 then '-' :: ofNat n.natAbs else ofNat n.natAbs

/-- The largest number of digits of a numeral. -/
def maxDigits : Nat := 4300

/-- The numeral of an integer, unless it has too many digits. -/
def ofInt? (n : Int) : Option Text :=
  if n.natAbs < Nat.pow 10 maxDigits then some (ofInt n) else none

/-- Zeros in front up to `width` digits. -/
def padded (width n : Nat) : Text :=
  List.replicate (width - (ofNat n).length) '0' ++ ofNat n

/-- `value` is what the digits so far stand for; an underscore needs a digit on
both sides. -/
def readFrom (value : Nat) (afterDigit : Bool) : Text → Option Nat
  | [] => if afterDigit then some value else none
  | c :: r =>
    if c = '_' then if afterDigit then readFrom value false r else none
    else match digit? c with
      | some d => readFrom (value * 10 + d) true r
      | none => none

def readNat? (s : Text) : Option Nat :=
  if maxDigits < s.countP (· ≠ '_') then none else readFrom 0 false s

def readInt? (s : Text) : Option Int :=
  match stripBy isSpace s with
  | '-' :: r => (readNat? r).map fun n => -(n : Int)
  | '+' :: r => (readNat? r).map Int.ofNat
  | r => (readNat? r).map Int.ofNat

end TagExpander.Text.Decimal
