import TagExpander.Text.Basic

/-! White space, and texts without it at their ends. Two classes are in use: the
blanks that trimming removes, and the spaces allowed around a numeral, which are
the blanks without the four separator controls U+001C to U+001F. -/

namespace TagExpander.Text

def isBlank (c : Char) : Bool :=
  let n := c.toNat
  (0x09 ≤ n && n ≤ 0x0D) || (0x1C ≤ n && n ≤ 0x20) || n == 0x85 || n == 0xA0 || n == 0x1680 ||
    (0x2000 ≤ n && n ≤ 0x200A) || n == 0x2028 || n == 0x2029 || n == 0x202F || n == 0x205F ||
    n == 0x3000

def isSpace (c : Char) : Bool :=
  isBlank c && !(0x1C ≤ c.toNat && c.toNat ≤ 0x1F)

def stripBy (p : Char → Bool) (s : Text) : Text :=
  ((s.dropWhile p).reverse.dropWhile p).reverse

def trim (s : Text) : Text :=
  stripBy isBlank s

theorem dropWhile_eq_self_iff (p : Char → Bool) (s : Text) :
    s.dropWhile p = s ↔ ∀ c ∈ s.head?, p c = false := by
  cases s with
  | nil => simp
  | cons x r =>
    cases hx : p x with
    | false => simp [List.dropWhile_cons_of_neg, hx]
    | true =>
      have := (List.dropWhile_suffix p (l := r)).length_le
      simp only [List.dropWhile_cons_of_pos hx, List.head?_cons, Option.mem_def, Option.some.injEq,
        forall_eq', hx, Bool.true_eq_false, iff_false]
      intro h
      rw [h, List.length_cons] at this
      omega

/-- A text is stripped if and only if it neither begins nor ends with a
character to strip. -/
theorem stripBy_eq_self_iff (p : Char → Bool) (s : Text) :
    stripBy p s = s ↔ (∀ c ∈ s.head?, p c = false) ∧ (∀ c ∈ s.getLast?, p c = false) := by
  rw [← List.head?_reverse, ← dropWhile_eq_self_iff, ← dropWhile_eq_self_iff]
  constructor
  · intro h
    have hd : s.dropWhile p = s := by
      refine (List.dropWhile_suffix p).eq_of_length_le ?_
      have hr := (List.dropWhile_suffix p (l := (s.dropWhile p).reverse)).length_le
      rw [← List.length_reverse, ← stripBy, h] at hr
      simpa using hr
    exact ⟨hd, by simpa [stripBy, hd] using congrArg List.reverse h⟩
  · rintro ⟨h1, h2⟩
    simp [stripBy, h1, h2]

end TagExpander.Text
