import TagExpander.Brackets
import TagExpander.Proofs.Course
import TagExpander.Proofs.Restoring

/-! A text whose braces match expands inside another text as it does alone. Its
markers lie above the open braces around it and never reach them, and what follows
it is not looked at before it is done. -/

namespace TagExpander

variable {σ : Type}

open StandIn

/-- The braces of the text match, with `depth` braces open before it. -/
inductive Nested : Nat → Text → Prop
  | nil : Nested 0 []
  | opening {depth : Nat} {r : Text} (h : Nested (depth + 1) r) : Nested depth ('{' :: r)
  | closing {depth : Nat} {r : Text} (h : Nested depth r) : Nested (depth + 1) ('}' :: r)
  | char {depth : Nat} {c : Char} {r : Text} (ho : c ≠ '{') (hc : c ≠ '}') (h : Nested depth r) :
      Nested depth (c :: r)

namespace Brackets

theorem balancedFrom_of_head (depth : Nat) (e : Bool) {r : Text} (h : ∀ c ∈ r.head?, c ≠ '{' ∧ c ≠ '}') :
    balancedFrom depth e r = balancedFrom depth false r := by
  cases r with
  | nil => simp [balancedFrom]
  | cons c r =>
    obtain ⟨ho, hc⟩ := h c rfl
    rw [balancedFrom.eq_def, balancedFrom.eq_def]
    simp [ho, hc]

theorem balancedFrom_char (depth : Nat) {c : Char} {r : Text} (ho : c ≠ '{') (hc : c ≠ '}')
    (h : ¬ Straddles [c] r) : balancedFrom depth false (c :: r) = balancedFrom depth false r := by
  rw [balancedFrom.eq_def]
  simp only [ho, hc, false_and, if_false]
  by_cases hslash : c = '\\'
  · exact balancedFrom_of_head _ _ fun x hx =>
      ne_of_notMem_escapable fun hmem => h ⟨by simp [hslash], x, hx, hmem⟩
  · simp [hslash]

theorem balancedFrom_escape (depth : Nat) {c : Char} (hc : c ∈ escapable) (r : Text) :
    balancedFrom depth false ('\\' :: c :: r) = balancedFrom depth false r := by
  rw [balancedFrom.eq_def]
  simp only [show ('\\' = '{') = False by decide, show ('\\' = '}') = False by decide, false_and, if_false]
  rw [balancedFrom.eq_def]
  simp [ne_backslash hc]

theorem balancedFrom_open (depth : Nat) (r : Text) :
    balancedFrom depth false ('{' :: r) = balancedFrom (depth + 1) false r := by
  rw [balancedFrom.eq_def]
  simp

theorem balancedFrom_close (depth : Nat) (r : Text) :
    balancedFrom (depth + 1) false ('}' :: r) = balancedFrom depth false r := by
  rw [balancedFrom.eq_def]
  simp

theorem balancedFrom_unmatched (r : Text) : balancedFrom 0 false ('}' :: r) = false := by
  rw [balancedFrom.eq_def]
  simp

theorem nested_scan {depth : Nat} {s : Text} (h : balancedFrom depth false s = true) :
    Nested depth (scan s) := by
  induction s using scan_induction generalizing depth with
  | nil =>
    obtain rfl : depth = 0 := by simpa [balancedFrom] using h
    exact .nil
  | escape c r hc ih =>
    rw [balancedFrom_escape _ hc] at h
    rw [scan_escape hc]
    exact .char (hidden_ne hc).1 (hidden_ne hc).2 (ih h)
  | char c r hs ih =>
    rw [scan_cons hs]
    by_cases ho : c = '{'
    · subst ho
      rw [balancedFrom_open] at h
      exact .opening (ih h)
    by_cases hc : c = '}'
    · subst hc
      cases depth with
      | zero => rw [balancedFrom_unmatched] at h; cases h
      | succ depth =>
        rw [balancedFrom_close] at h
        exact .closing (ih h)
    · rw [balancedFrom_char _ ho hc hs] at h
      exact .char ho hc (ih h)

theorem nested_hide {s : Text} (h : Balanced s) : Nested 0 (hide s) := by
  rw [hide_eq_scan]
  exact nested_scan h

end Brackets

/-- The visit of the same marker in a longer text. -/
def Visit.inside (before rest : Text) (v : Visit σ) : Visit σ :=
  ⟨v.contents, v.after ++ rest, before.length + v.length + rest.length, v.state⟩

namespace Run

def inside (before rest : Text) (run : Run σ) : Run σ :=
  { run with visits := run.visits.map (Visit.inside before rest) }

def prepend (visits : List (Visit σ)) (run : Run σ) : Run σ :=
  { run with visits := visits ++ run.visits }

/-- Goes on from the text that a run has reached. A run that a method stopped does not
go on. -/
def andThen (run : Run σ) (next : Text → σ → Run σ) : Run σ :=
  match run.ending with
  | .reached _ text => (next text run.state).prepend run.visits
  | _ => run

theorem andThen_of_reached (run : Run σ) {halt : Halt} {text : Text} (h : run.ending = .reached halt text)
    (next : Text → σ → Run σ) : run.andThen next = (next text run.state).prepend run.visits := by
  unfold andThen
  rw [h]

theorem andThen_of_stopped (run : Run σ) (h : ∀ halt text, run.ending ≠ .reached halt text)
    (next : Text → σ → Run σ) : run.andThen next = run := by
  unfold andThen
  split
  · next halt text hending => exact absurd hending (h halt text)
  · rfl

@[simp] theorem inside_cons (before rest : Text) (v : Visit σ) (run : Run σ) :
    (run.cons v).inside before rest = (run.inside before rest).cons (v.inside before rest) := rfl

@[simp] theorem andThen_cons (v : Visit σ) (run : Run σ) (next : Text → σ → Run σ) :
    (run.cons v).andThen next = (run.andThen next).cons v := by
  obtain ⟨ending, st, visits⟩ := run
  cases ending <;> rfl

theorem calls_prepend (first run : Run σ) :
    (run.prepend first.visits).outcome.calls = first.outcome.calls ++ run.outcome.calls := List.map_append

theorem calls_inside (before rest : Text) (run : Run σ) :
    (run.inside before rest).outcome.calls = run.outcome.calls := by
  simp [Outcome.calls, outcome, inside, Visit.inside, Function.comp_def]

theorem gives_outcome_iff {run : Run σ} {x : Text} :
    run.outcome.Gives x ↔ ∃ halt text, run.ending = .reached halt text ∧ restore text = x := by
  obtain ⟨ending, st, visits⟩ := run
  cases ending <;> simp [Outcome.Gives, outcome, Ending.answer]

end Run

namespace Expansion

/-- A stack above another one: the outermost text of the one goes on with the
innermost text of the other. -/
def above (base : Text × List Text) : Text → List Text → Text × List Text
  | top, [] => (top ++ base.1, base.2)
  | top, outer :: below => (top, (above base outer below).1 :: (above base outer below).2)

theorem above_append (base : Text × List Text) (x top : Text) (below : List Text) :
    above base (x ++ top) below = (x ++ (above base top below).1, (above base top below).2) := by
  cases below <;> simp [above]

theorem unwound_above (base : Text × List Text) (r top : Text) (below : List Text) :
    unwound r (above base top below).1 (above base top below).2 =
      unwound [] base.1 base.2 ++ unwound r top below := by
  induction below generalizing r top with
  | nil =>
    have := unwound_reverse_append top.reverse r base.1 base.2
    rw [List.reverse_reverse] at this
    rw [above, this, unwound_eq_append]
    rfl
  | cons outer below ih =>
    rw [above, unwound, ih]
    rfl

theorem visit_above (base : Text × List Text) (rest r top outer : Text) (below : List Text) (st : σ) :
    let stack := above base top (outer :: below)
    (⟨top.reverse, r ++ rest, (unwound ('}' :: (r ++ rest)) stack.1 stack.2).length, st⟩ : Visit σ) =
      Visit.inside (unwound [] base.1 base.2) rest
        ⟨top.reverse, r, (unwound ('}' :: r) top (outer :: below)).length, st⟩ := by
  have hlength := congrArg List.length (unwound_above base ('}' :: (r ++ rest)) top (outer :: below))
  rw [List.length_append, length_unwound _ _ (outer :: below)] at hlength
  dsimp only
  rw [hlength, Visit.inside, length_unwound _ _ (outer :: below)]
  simp only [List.length_cons, List.length_append, Visit.mk.injEq, true_and, and_true]
  omega

variable (reg : Registry (Action σ))

/-- The frame of a course: above another stack and in front of more text, a text whose
braces match takes its own course, and then the rest is walked over. -/
theorem whole_above (base : Text × List Text) (rest : Text) {depth : Nat} {t : Text} (h : Nested depth t)
    (top : Text) (below : List Text) (hbelow : below.length = depth) (st : σ) :
    (course reg (above base top below).1 (above base top below).2 (t ++ rest) st).whole =
      ((course reg top below t st).whole.inside (unwound [] base.1 base.2) rest).andThen
        fun text st' => (course reg (text.reverse ++ base.1) base.2 rest st').whole := by
  induction h generalizing top below st with
  | nil =>
    rw [List.eq_nil_of_length_eq_zero hbelow, course_nil]
    simp [above, Course.whole, unwound, Run.inside, Run.andThen, Run.prepend]
  | opening _ ih =>
    rw [List.cons_append, course_open, course_open]
    exact ih [] (top :: below) (by simp [hbelow]) st
  | @closing depth r _ ih =>
    -- the depth counts the text's own open braces, so this one closes none of the base
    obtain ⟨outer, below, rfl⟩ := List.exists_cons_of_length_eq_add_one hbelow
    have hvisit := visit_above base rest r top outer below st
    rw [above] at hvisit
    rw [List.cons_append, above]
    rcases hd : substitute reg top.reverse st with ⟨stop | new, st'⟩
    · rw [course_stop _ _ _ hd, course_stop _ _ _ hd, Course.whole, Course.whole, hvisit]
      cases stop <;> rfl
    · have hnext := ih (new.reverse ++ outer) below (Nat.succ.inj hbelow) st'
      rw [above_append] at hnext
      rw [course_answer _ _ _ hd, course_answer _ _ _ hd, Course.whole, Course.whole, hvisit, hnext,
        Run.inside_cons, Run.andThen_cons]
  | char ho hc _ ih =>
    rw [List.cons_append, course_char _ _ _ _ _ ho hc, course_char _ _ _ _ _ ho hc, ← ih _ _ hbelow]
    rw [show ∀ c : Char, c :: top = [c] ++ top from fun _ => rfl, above_append]
    rfl

theorem course_append {a : Text} (ho : '{' ∉ a) (hc : '}' ∉ a) (top : Text) (below : List Text) (r : Text)
    (st : σ) : course reg top below (a ++ r) st = course reg (a.reverse ++ top) below r st := by
  induction a generalizing top with
  | nil => rfl
  | cons c a ih =>
    simp only [List.mem_cons, not_or] at ho hc
    rw [List.cons_append, course_char _ _ _ _ _ (Ne.symm ho.1) (Ne.symm hc.1), ih ho.2 hc.2,
      List.reverse_cons, List.append_assoc, List.singleton_append]

/-- What stands between a piece of a marker and more text takes its own course; then the
marker goes on behind what it came to. -/
theorem whole_opened {piece t : Text} (ho : '{' ∉ piece) (hc : '}' ∉ piece) (h : Nested 0 t) (rest : Text) (st : σ) :
    (course reg [] [] ('{' :: (piece ++ (t ++ rest))) st).whole =
      ((course reg [] [] t st).whole.inside ('{' :: piece) rest).andThen
        fun text st' => (course reg (piece ++ text).reverse [[]] rest st').whole := by
  have hframe := whole_above reg (piece.reverse, [[]]) rest h [] [] rfl st
  rw [course_open, course_append reg ho hc]
  simpa [above, unwound] using hframe

end Expansion

end TagExpander
