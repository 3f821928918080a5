import TagExpander.Text.Basic

/-! The braces of an input and how they match. A brace directly after a backslash
is text; the others open and close. A closing brace without an open one ends the
matching. -/

namespace TagExpander.Brackets

/-- `depth` braces are open, and the character before was a backslash or not. -/
def balancedFrom : Nat → Bool → Text → Bool
  | depth, _, [] => depth == 0
  | depth, escaped, c :: r =>
    if c = '{' ∧ escaped = false then balancedFrom (depth + 1) false r
    else if c = '}' ∧ escaped = false then
      match depth with
      | 0 => false
      | d + 1 => balancedFrom d false r
    else balancedFrom depth (c = '\\') r

/-- Every brace of the text, the escaped ones apart, has its partner. -/
def Balanced (s : Text) : Prop :=
  balancedFrom 0 false s = true

instance (s : Text) : Decidable (Balanced s) :=
  inferInstanceAs (Decidable (_ = true))

/-- The places of two braces that match. -/
structure Pair where
  opening : Nat
  closing : Nat
deriving DecidableEq, Repr

/-- `opened` holds the places of the braces that are open, the innermost first. -/
def pairsFrom : Nat → List Nat → Bool → Text → List Pair
  | _, _, _, [] => []
  | i, opened, escaped, c :: r =>
    if c = '{' ∧ escaped = false then pairsFrom (i + 1) (i :: opened) false r
    else if c = '}' ∧ escaped = false then
      match opened with
      | [] => []
      | o :: os => ⟨o, i⟩ :: pairsFrom (i + 1) os false r
    else pairsFrom (i + 1) opened (c = '\\') r

/-- The matching braces in the order of the closing ones, up to the first closing
brace that matches none. -/
def pairs (s : Text) : List Pair :=
  pairsFrom 0 [] false s

end TagExpander.Brackets
