import TagExpander.Text.Basic
import TagExpander.Bisection

/-! Tables of ranges of code points. The rows of a table ascend and do not overlap,
so one row at most speaks of a character, and halving finds it. -/

namespace TagExpander.Text

/-- The last row that does not start behind a code point. -/
def row? {α : Type} (start : α → Nat) (rows : Array α) (n : Nat) : Option α :=
  match Bisection.place (n < start ·) rows with
  | 0 => none
  | i + 1 => rows[i]?

/-- The rows are the first and the last code point of each range. -/
def inRanges (rows : Array (Nat × Nat)) (c : Char) : Bool :=
  ((row? Prod.fst rows c.toNat).map fun row => decide (c.toNat ≤ row.2)).getD false

end TagExpander.Text
