import TagExpander.Text.Basic

/-! Cuts a text in two at the first or the last place where a character stands.
The character itself is left out. -/

namespace TagExpander.Text

def cut? (s : Text) (x : Char) : Option (Text × Text) :=
  match s.dropWhile (· ≠ x) with
  | [] => none
  | _ :: after => some (s.takeWhile (· ≠ x), after)

def cutLast? (s : Text) (x : Char) : Option (Text × Text) :=
  (cut? s.reverse x).map fun (after, before) => (before.reverse, after.reverse)

theorem takeWhile_ne_append {x : Char} {a : Text} (h : x ∉ a) (b : Text) :
    (a ++ x :: b).takeWhile (· ≠ x) = a ∧ (a ++ x :: b).dropWhile (· ≠ x) = x :: b := by
  have ha : ∀ c ∈ a, decide (c ≠ x) = true := fun c hc => by
    simpa using fun e : c = x => h (e ▸ hc)
  constructor
  · rw [List.takeWhile_append_of_pos ha]
    simp
  · rw [List.dropWhile_append_of_pos ha]
    simp

theorem dropWhile_ne_of_notMem {x : Char} {s : Text} (h : x ∉ s) : s.dropWhile (· ≠ x) = [] := by
  induction s with
  | nil => rfl
  | cons c r ih =>
    simp only [List.mem_cons, not_or] at h
    rw [List.dropWhile_cons_of_pos (by simpa using Ne.symm h.1), ih h.2]

theorem cut?_append {x : Char} {a : Text} (h : x ∉ a) (b : Text) : cut? (a ++ x :: b) x = some (a, b) := by
  simp only [cut?, (takeWhile_ne_append h b).1, (takeWhile_ne_append h b).2]

theorem cut?_of_notMem {x : Char} {s : Text} (h : x ∉ s) : cut? s x = none := by
  simp only [cut?, dropWhile_ne_of_notMem h]

theorem cut?_eq_some_iff {x : Char} {s a b : Text} :
    cut? s x = some (a, b) ↔ s = a ++ x :: b ∧ x ∉ a := by
  constructor
  · intro h
    by_cases hx : x ∈ s
    · obtain ⟨a', b', rfl, ha'⟩ := List.eq_append_cons_of_mem hx
      rw [cut?_append ha'] at h
      simp only [Option.some.injEq, Prod.mk.injEq] at h
      exact ⟨by rw [h.1, h.2], h.1 ▸ ha'⟩
    · simp [cut?_of_notMem hx] at h
  · rintro ⟨rfl, h⟩
    exact cut?_append h b

theorem cut?_eq_none_iff {x : Char} {s : Text} : cut? s x = none ↔ x ∉ s := by
  refine ⟨fun h hx => ?_, cut?_of_notMem⟩
  obtain ⟨a, b, rfl, ha⟩ := List.eq_append_cons_of_mem hx
  simp [cut?_append ha] at h

theorem cutLast?_eq_some_iff {x : Char} {s a b : Text} :
    cutLast? s x = some (a, b) ↔ s = a ++ x :: b ∧ x ∉ b := by
  simp only [cutLast?, Option.map_eq_some_iff, Prod.exists, Prod.mk.injEq, cut?_eq_some_iff]
  constructor
  · rintro ⟨a', b', ⟨hs, hx⟩, rfl, rfl⟩
    exact ⟨by simpa using congrArg List.reverse hs, by simpa using hx⟩
  · rintro ⟨rfl, hx⟩
    exact ⟨b.reverse, a.reverse, ⟨by simp, by simpa using hx⟩, by simp, by simp⟩

theorem cutLast?_eq_none_iff {x : Char} {s : Text} : cutLast? s x = none ↔ x ∉ s := by
  simp [cutLast?, cut?_eq_none_iff]

end TagExpander.Text
