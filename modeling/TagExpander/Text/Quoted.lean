import TagExpander.Text.Ranges
import TagExpander.Text.PrintTable

/-! Texts in quotes. Single quotes are used, or double quotes around a text that
holds single quotes only. The quote in use, the backslash and every character
without a graphic form are written as escapes. -/

namespace TagExpander.Text

def isPrintable (c : Char) : Bool :=
  if c.toNat < 0x7F then 0x20 ≤ c.toNat
  else !inRanges PrintTable.invisible c

def hexadecimal (width n : Nat) : Text :=
  List.replicate (width - (Nat.toDigits 16 n).length) '0' ++ Nat.toDigits 16 n

def quotedChar (quote c : Char) : Text :=
  if c = quote ∨ c = '\\' then ['\\', c]
  else if c = '\n' then ['\\', 'n']
  else if c = '\r' then ['\\', 'r']
  else if c = '\t' then ['\\', 't']
  else if isPrintable c then [c]
  else if c.toNat < 0x100 then '\\' :: 'x' :: hexadecimal 2 c.toNat
  else if c.toNat < 0x10000 then '\\' :: 'u' :: hexadecimal 4 c.toNat
  else '\\' :: 'U' :: hexadecimal 8 c.toNat

def quoteOf (s : Text) : Char :=
  if s.contains '\'' && !s.contains '"' then '"' else '\''

def quoted (s : Text) : Text :=
  quoteOf s :: s.flatMap (quotedChar (quoteOf s)) ++ [quoteOf s]

/-- Texts in quotes, as the items of a list. -/
def quotedList (parts : List Text) : Text :=
  '[' :: List.intercalate ", ".toList (parts.map quoted) ++ [']']

end TagExpander.Text
