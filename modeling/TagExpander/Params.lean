import TagExpander.Text.Basic
import TagExpander.Number.Fault

/-! The parameters of a marker are separated by pipes. A pipe directly after a
backslash separates nothing, whatever stands before that backslash. -/

namespace TagExpander.Params

/-- `cuts` is the number of cuts still allowed, if there is a limit; `escaped`
says whether the character before the text was a backslash. -/
def splitFrom : Option Nat → Bool → Text → List Text
  | _, _, [] => [[]]
  | cuts, escaped, c :: r =>
    if c = '|' ∧ escaped = false ∧ cuts ≠ some 0 then
      [] :: splitFrom (cuts.map (· - 1)) false r
    else (splitFrom cuts (c = '\\') r).modifyHead (c :: ·)

def split (s : Text) : List Text :=
  splitFrom none false s

/-- At most `n` cuts, from the left. -/
def splitMost (n : Nat) (s : Text) : List Text :=
  splitFrom (some n) false s

/-- A limit of zero is no limit, and a negative one allows no cut. It has to be a
signed number of 64 bits. -/
def splitWithin (limit : Int) (s : Text) : Except NumberFault (List Text) :=
  if limit < -(Nat.pow 2 63) ∨ Nat.pow 2 63 ≤ limit then .error .outOfRange
  else if limit = 0 then .ok (split s)
  else .ok (splitMost limit.toNat s)

def join (parts : List Text) : Text :=
  List.intercalate ['|'] parts

theorem splitFrom_ne_nil (cuts : Option Nat) (escaped : Bool) (s : Text) :
    splitFrom cuts escaped s ≠ [] := by
  induction s generalizing cuts escaped with
  | nil => simp [splitFrom]
  | cons c r ih =>
    unfold splitFrom
    split
    · simp
    · simpa using ih cuts _

theorem split_ne_nil (s : Text) : split s ≠ [] := splitFrom_ne_nil none false s

@[simp] theorem splitMost_zero (s : Text) : splitMost 0 s = [s] := by
  have h : ∀ (b : Bool) (t : Text), splitFrom (some 0) b t = [t] := by
    intro b t
    induction t generalizing b with
    | nil => rfl
    | cons c r ih => simp [splitFrom, ih]
  exact h false s

theorem join_cons_nil {parts : List Text} (h : parts ≠ []) :
    join ([] :: parts) = '|' :: join parts := by
  cases parts with
  | nil => exact absurd rfl h
  | cons p ps => simp [join, List.intercalate]

theorem join_modifyHead {parts : List Text} (h : parts ≠ []) (c : Char) :
    join (parts.modifyHead (c :: ·)) = c :: join parts := by
  cases parts with
  | nil => exact absurd rfl h
  | cons p ps => cases ps <;> simp [join, List.intercalate]

/-- Nothing is lost by splitting, however many cuts are allowed. -/
theorem join_splitFrom (cuts : Option Nat) (escaped : Bool) (s : Text) :
    join (splitFrom cuts escaped s) = s := by
  induction s generalizing cuts escaped with
  | nil => rfl
  | cons c r ih =>
    unfold splitFrom
    split
    · next h => rw [join_cons_nil (splitFrom_ne_nil _ _ _), ih, h.1]
    · rw [join_modifyHead (splitFrom_ne_nil _ _ _), ih]

end TagExpander.Params
