import TagExpander.Proofs.Framing

/-! Expansion of two texts one after the other. If the braces of the first one match and
no escape lies across the seam, the first text expands as it does alone, and the second
one as it does alone on the state that the first has left. Nothing in the second text
reaches back: what the first came to stands behind all that the second opens. -/

namespace TagExpander

variable {σ : Type}

open StandIn

def Ending.behind (before : Text) : Ending → Ending
  | .reached halt text => .reached halt (before ++ text)
  | ending => ending

namespace Run

/-- The same run with more text before all that it works on. -/
def behind (before : Text) (run : Run σ) : Run σ :=
  { run.inside before [] with ending := run.ending.behind before }

@[simp] theorem behind_cons (before : Text) (v : Visit σ) (run : Run σ) :
    (run.cons v).behind before = (run.behind before).cons (v.inside before []) := rfl

theorem calls_behind (before : Text) (run : Run σ) :
    (run.behind before).outcome.calls = run.outcome.calls :=
  calls_inside before [] run

theorem records_behind (before : Text) (run : Run σ) :
    (run.behind before).outcome.records = run.outcome.records := by
  obtain ⟨ending, st, visits⟩ := run
  cases ending <;> rfl

theorem answer_behind_of_gives {before y : Text} {run : Run σ} (h : run.outcome.Gives y) :
    (run.behind before).outcome.answer = .ok (restore before ++ y) := by
  obtain ⟨halt, text, hending, rfl⟩ := gives_outcome_iff.1 h
  obtain ⟨ending, st, visits⟩ := run
  subst hending
  exact congrArg Except.ok (restore_append before text)

theorem answer_behind_of_stopped (before : Text) {run : Run σ} (h : ¬ ∃ y, run.outcome.Gives y) :
    (run.behind before).outcome.answer = run.outcome.answer := by
  obtain ⟨ending, st, visits⟩ := run
  cases ending with
  | reached halt text => exact absurd ⟨restore text, gives_outcome_iff.2 ⟨halt, text, rfl, rfl⟩⟩ h
  | aborted contents message => rfl
  | faulted cause => rfl

end Run

namespace Expansion

variable (reg : Registry (Action σ))

/-- A course with more text below its stack is the same course behind this text: a
closing brace that matched none matches none now. -/
theorem whole_behind (x top : Text) (below : List Text) (r : Text) (st : σ) :
    (course reg (above (x, []) top below).1 (above (x, []) top below).2 r st).whole =
      (course reg top below r st).whole.behind x.reverse := by
  have hbase : unwound [] x [] = x.reverse := List.append_nil _
  have htext (r top : Text) (below : List Text) := unwound_above (x, []) r top below
  have hvisit (r top outer : Text) (below : List Text) (st : σ) := visit_above (x, []) [] r top outer below st
  simp only [hbase, List.append_nil] at htext hvisit
  induction top, below, r, st using course_induction reg with
  | nil top below st =>
    rw [course_nil, course_nil, Course.whole, htext]
    rfl
  | opening top below r st ih =>
    rw [course_open, course_open]
    exact ih
  | unmatched top r st =>
    -- the new text is no open marker, so this brace still matches none
    have h := htext ('}' :: r) top []
    simp only [above] at h ⊢
    rw [course_unmatched, course_unmatched, Course.whole, h]
    rfl
  | stop top outer below r st stop st' hd =>
    have h := hvisit r top outer below st
    simp only [above] at h ⊢
    rw [course_stop _ _ _ hd, course_stop _ _ _ hd, Course.whole, Course.whole, h]
    cases stop <;> rfl
  | answer top outer below r st new st' hd ih =>
    have h := hvisit r top outer below st
    simp only [above, above_append] at h ih ⊢
    rw [course_answer _ _ _ hd, course_answer _ _ _ hd, Course.whole, Course.whole, h, ih,
      Run.behind_cons]
  | char c top below r st ho hc ih =>
    have htop := above_append (x, []) [c] top below
    rw [List.singleton_append] at htop
    rw [course_char _ _ _ _ _ ho hc, course_char _ _ _ _ _ ho hc, ← ih, htop]
    rfl

/-- The first of two texts takes its own course, and then the second one takes its own
behind what the first came to. -/
theorem whole_append {a : Text} (ha : Brackets.Balanced a) (hlast : a.getLast? ≠ some '\\') (b : Text) (st : σ) :
    (course reg [] [] (hide (a ++ b)) st).whole =
      ((course reg [] [] (hide a) st).whole.inside [] (hide b)).andThen
        fun text st' => (course reg [] [] (hide b) st').whole.behind text := by
  have hseam : hide (a ++ b) = hide a ++ hide b := by
    simp only [hide_eq_scan]
    exact scan_append fun h => hlast h.1
  have hbehind (text : Text) (st' : σ) : (course reg (text.reverse ++ []) [] (hide b) st').whole =
      (course reg [] [] (hide b) st').whole.behind text := by
    have h := whole_behind reg text.reverse [] [] (hide b) st'
    rw [List.reverse_reverse] at h
    rw [List.append_nil]
    exact h
  have h := whole_above reg ([], []) (hide b) (Brackets.nested_hide ha) [] [] rfl st
  simp only [hbehind] at h
  rw [hseam]
  exact h

/-- Expansion goes through concatenation. A text `a` that comes to `x` is followed by
`b`: the calls of `a` are made first and those of `b` after them, on the state that `a`
has left. The answer is `x` and then the answer to `b`, or what stopped `b` alone. -/
theorem expand_append {reg : Registry (Action σ)} {limits : Limits} {a b x : Text} {st : σ}
    (ha : Brackets.Balanced a) (hlast : a.getLast? ≠ some '\\') (hx : (expand reg limits a st).Gives x)
    (hb : (expand reg limits b (expand reg limits a st).state).Unlimited)
    (hab : (expand reg limits (a ++ b) st).Unlimited) :
    let first := expand reg limits a st
    let second := expand reg limits b first.state
    let both := expand reg limits (a ++ b) st
    both.calls = first.calls ++ second.calls ∧ both.state = second.state ∧
      both.records = second.records ∧
      (∀ y, second.Gives y → both.answer = .ok (x ++ y)) ∧
      ((¬ ∃ y, second.Gives y) → both.answer = second.answer) := by
  intro first second both
  have hfirst : first = (course reg [] [] (hide a) st).whole.outcome := expand_of_unlimited hx.unlimited
  have hsecond : second = (course reg [] [] (hide b) first.state).whole.outcome := expand_of_unlimited hb
  have hboth : both = _ := expand_of_unlimited hab
  rw [whole_append reg ha hlast] at hboth
  generalize (course reg [] [] (hide a) st).whole = run at hfirst hboth
  obtain ⟨halt, text, hending, rfl⟩ := Run.gives_outcome_iff.1 (hfirst ▸ hx : run.outcome.Gives x)
  rw [Run.andThen_of_reached (run.inside [] (hide b)) hending] at hboth
  have hstate : (run.inside [] (hide b)).state = first.state := by rw [hfirst]; rfl
  rw [hstate] at hboth
  generalize (course reg [] [] (hide b) first.state).whole = next at hsecond hboth
  rw [hboth, hsecond]
  refine ⟨?_, rfl, Run.records_behind text next, fun y hy => Run.answer_behind_of_gives hy,
    fun hy => Run.answer_behind_of_stopped text hy⟩
  rw [Run.calls_prepend, Run.calls_inside, Run.calls_behind, hfirst]

/-- The first text comes to one that ends in a backslash. The second one begins with a
closing brace that nothing opens, or it is stopped by `x`. -/
theorem expand_append_sample :
    let limits : Limits := ⟨Limit.count 9, Limit.count 99, Limit.count 99⟩
    let a := "\x7bu:\\\x7b\x7d\x7bn\x7d".toList
    let b := "\x7d\x7bn\x7d".toList
    let b' := "|\x7bx\x7d\x7bn\x7d".toList
    let both := expand sample limits (a ++ b) 0
    let both' := expand sample limits (a ++ b') 0
    (both.state = 11 ∧ both.answer = .ok "\\\x7b\x7d\\\x7d\x7bn\x7d".toList) ∧
      both'.state = 111 ∧ both'.answer = .ok ['!'] := by
  intro limits a b b' both both'
  have hx : (expand sample limits a 0).Gives "\\\x7b\x7d\\".toList := ⟨rfl, rfl⟩
  have hgives := @expand_append Nat sample limits a b _ 0 (by decide) (by decide) hx (by decide) (by decide)
  have hstops := @expand_append Nat sample limits a b' _ 0 (by decide) (by decide) hx (by decide) (by decide)
  obtain ⟨-, hstate, -, hanswer, -⟩ := hgives
  obtain ⟨-, hstate', -, -, hanswer'⟩ := hstops
  have hstopped : ¬ ∃ y, (expand sample limits b' (expand sample limits a 0).state).Gives y := by
    rintro ⟨y, hy, -⟩
    cases hy
  exact ⟨⟨hstate.trans rfl, hanswer _ ⟨rfl, rfl⟩⟩, hstate'.trans rfl, (hanswer' hstopped).trans rfl⟩

end Expansion

end TagExpander
