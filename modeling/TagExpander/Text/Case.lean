import TagExpander.Text.Ranges
import TagExpander.Text.CaseTable

/-! Capital and small letters, by the full case mapping: one letter may become
several. A capital sigma has two small forms, one of them at the end of a word. -/

namespace TagExpander.Text

def shifted? (rows : Array (Nat × Nat × Nat × Int)) (n : Nat) : Option Nat :=
  match row? Prod.fst rows n with
  | some (first, last, stride, shift) =>
    if n ≤ last && (n - first) % stride == 0 then some (n + shift).toNat else none
  | none => none

def expanded? (rows : Array (Nat × List Nat)) (n : Nat) : Option (List Nat) :=
  match row? Prod.fst rows n with
  | some (m, ns) => if m = n then some ns else none
  | none => none

def mapChar (rows : Array (Nat × Nat × Nat × Int)) (long : Array (Nat × List Nat)) (c : Char) :
    Text :=
  match shifted? rows c.toNat with
  | some n => [Char.ofNat n]
  | none =>
    match expanded? long c.toNat with
    | some ns => ns.map Char.ofNat
    | none => [c]

def upperChar (c : Char) : Text :=
  if c.toNat < 0x80 then [c.toUpper] else mapChar CaseTable.toUpper CaseTable.toUpperLong c

/-- A letter's small form where no word around it matters. -/
def lowerChar (c : Char) : Text :=
  if c.toNat < 0x80 then [c.toLower] else mapChar CaseTable.toLower CaseTable.toLowerLong c

/-- A cased letter is next, after characters that a word passes over. -/
def continuesWord (s : Text) : Bool :=
  ((s.dropWhile (inRanges CaseTable.ignorable)).head?.map (inRanges CaseTable.cased)).getD false

def upper (s : Text) : Text :=
  s.flatMap upperChar

/-- `inWord` says that a cased letter came before, perhaps with characters
between that a word passes over. -/
def lowerFrom (inWord : Bool) : Text → Text
  | [] => []
  | c :: r =>
    (if c = 'Σ' then [if inWord && !continuesWord r then 'ς' else 'σ'] else lowerChar c) ++
      lowerFrom (if inRanges CaseTable.ignorable c then inWord else inRanges CaseTable.cased c) r

def lower (s : Text) : Text :=
  lowerFrom false s

end TagExpander.Text
