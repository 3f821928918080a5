/-! Texts are lists of code points, so a length counts code points. This file
replaces every occurrence of one text by another. -/

namespace TagExpander

abbrev Text := List Char

namespace Text

/-- `skip` characters are still to be passed over: the rest of an occurrence
that was just replaced. -/
def replaceFrom (old new : Text) : Nat → Text → Text
  | _, [] => []
  | skip + 1, _ :: r => replaceFrom old new skip r
  | 0, c :: r =>
    if old.isPrefixOf (c :: r) then new ++ replaceFrom old new (old.length - 1) r
    else c :: replaceFrom old new 0 r

/-- Replaces the occurrences of `old`, found from left to right without overlap.
The empty text occurs before every character and at the end. -/
def replaceAll (s old new : Text) : Text :=
  if old = [] then new ++ s.flatMap (fun c => c :: new) else replaceFrom old new 0 s

@[simp] theorem replaceFrom_nil (old new : Text) (k : Nat) : replaceFrom old new k [] = [] := by
  cases k <;> rfl

theorem replaceAll_pair_nil (a b : Char) (t : Text) : replaceAll [] [a, b] t = [] := by
  simp [replaceAll]

theorem replaceAll_pair_match (a b : Char) (t r : Text) :
    replaceAll (a :: b :: r) [a, b] t = t ++ replaceAll r [a, b] t := by
  simp [replaceAll, replaceFrom]

theorem replaceAll_pair_cons {a b c : Char} {r : Text} (h : c = a → r.head? ≠ some b) (t : Text) :
    replaceAll (c :: r) [a, b] t = c :: replaceAll r [a, b] t := by
  have hp : [a, b].isPrefixOf (c :: r) = false := by
    cases r with
    | nil => simp [List.isPrefixOf]
    | cons d r =>
      simp only [List.head?_cons, ne_eq, Option.some.injEq] at h
      by_cases hc : c = a
      · have : b ≠ d := fun e => h hc e.symm
        simp [List.isPrefixOf, this]
      · have : a ≠ c := fun e => hc e.symm
        simp [List.isPrefixOf, this]
  simp [replaceAll, replaceFrom, hp]

/-- Where a pair is replaced by one character, this character or the old beginning
comes first. -/
theorem head?_replaceAll_pair {a b d y : Char} {s : Text}
    (h : (replaceAll s [a, b] [y]).head? = some d) : d = y ∨ s.head? = some d := by
  cases s with
  | nil => simp [replaceAll_pair_nil] at h
  | cons c r =>
    by_cases hp : c = a ∧ r.head? = some b
    · obtain ⟨rfl, hr⟩ := hp
      obtain ⟨r', rfl⟩ : ∃ r', r = b :: r' := by
        cases r with
        | nil => simp at hr
        | cons x r' => exact ⟨r', by simp at hr; rw [hr]⟩
      rw [replaceAll_pair_match] at h
      simp at h
      exact Or.inl h.symm
    · rw [replaceAll_pair_cons (fun e he => hp ⟨e, he⟩)] at h
      exact Or.inr (by simpa using h)

end Text

end TagExpander
