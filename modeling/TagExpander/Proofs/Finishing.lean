import TagExpander.Proofs.Course
import TagExpander.Proofs.Rounds
import TagExpander.Proofs.Writable

/-! The passes end without any limit. A pass that rewrites a text takes one opening and
one closing brace from it, whatever the method answers, so it leaves another text: only a
pass that finds no marker leaves the text as it was. Comparing a text with the one before
it therefore stops the passes where no marker is left, and nowhere else. -/

namespace TagExpander

namespace Marker

def NoneIn (text : Text) : Prop :=
  '}' ∉ text ∨ ∃ a r, text = a ++ '}' :: r ∧ '}' ∉ a ∧ '{' ∉ a

theorem first?_eq_none_iff {text : Text} : first? text = none ↔ NoneIn text := by
  constructor
  · intro h
    by_cases hclose : '}' ∈ text
    · obtain ⟨a, r, rfl, ha⟩ := List.eq_append_cons_of_mem hclose
      refine Or.inr ⟨a, r, rfl, ha, Text.cutLast?_eq_none_iff.1 ?_⟩
      simp only [first?, Text.cut?_append ha] at h
      cases hcut : Text.cutLast? a '{' with
      | none => rfl
      | some parts => simp [hcut] at h
    · exact Or.inl hclose
  · rintro (h | ⟨a, r, rfl, hclose, hopen⟩)
    · exact first?_of_notMem h
    · exact first?_append_close hclose hopen r

end Marker

namespace Expansion

variable {σ : Type} {reg : Registry (Action σ)} {text text' : Text} {st st' : σ} {visit : Visit σ}

theorem pass_idle_iff : pass reg text st = .idle ↔ Marker.NoneIn text := by
  rw [← Marker.first?_eq_none_iff]
  unfold pass
  cases hm : Marker.first? text with
  | none => simp
  | some m => rcases hd : substitute reg m.contents st with ⟨stop | new, left⟩ <;> simp [hd]

/-- The markers that a text can hold at most. -/
def supply (text : Text) : Nat := min (text.count '{') (text.count '}')

theorem supply_rewrote (h : pass reg text st = .rewrote visit text' st') : supply text = supply text' + 1 := by
  obtain ⟨hopen, hclose⟩ := count_rewrote h
  unfold supply
  omega

/-- The passes over a text without limits, and how many they are: they go on while the
last pass changed the text. -/
def freePasses (reg : Registry (Action σ)) (last text : Text) (st : σ) : Nat × Run σ :=
  if text = last then (0, ⟨.reached .settled text, st, []⟩)
  else
    match h : pass reg text st with
    | .idle =>
      let (n, run) := freePasses reg text text st
      (n + 1, run)
    | .stopped visit stop st' => (1, ⟨Ending.ofStop visit.contents stop, st', [visit]⟩)
    | .rewrote visit text' st' =>
      have _ : supply text' < supply text := by rw [supply_rewrote h]; exact Nat.lt_succ_self _
      let (n, run) := freePasses reg text text' st'
      (n + 1, run.cons visit)
termination_by (supply text, if text = last then 0 else 1)
decreasing_by
  · exact Prod.Lex.right _ (by simp [*])
  · exact Prod.Lex.left _ _ ‹_›

theorem freePasses_same (text : Text) (st : σ) :
    freePasses reg text text st = (0, ⟨.reached .settled text, st, []⟩) := by
  rw [freePasses, if_pos rfl]

theorem freePasses_idle {last : Text} (hlast : text ≠ last) (h : pass reg text st = .idle) :
    freePasses reg last text st = (1, ⟨.reached .settled text, st, []⟩) := by
  rw [freePasses, if_neg hlast]
  split
  · rw [freePasses_same]
  · next h' => cases h.symm.trans h'
  · next h' => cases h.symm.trans h'

theorem freePasses_stopped {last : Text} {stop : Stop} (hlast : text ≠ last)
    (h : pass reg text st = .stopped visit stop st') :
    freePasses reg last text st = (1, ⟨Ending.ofStop visit.contents stop, st', [visit]⟩) := by
  rw [freePasses, if_neg hlast]
  split
  · next h' => cases h.symm.trans h'
  · next h' => cases h.symm.trans h'; rfl
  · next h' => cases h.symm.trans h'

theorem freePasses_rewrote {last : Text} (hlast : text ≠ last)
    (h : pass reg text st = .rewrote visit text' st') :
    freePasses reg last text st =
      ((freePasses reg text text' st').1 + 1, (freePasses reg text text' st').2.cons visit) := by
  rw [freePasses, if_neg hlast]
  split
  · next h' => cases h.symm.trans h'
  · next h' => cases h.symm.trans h'
  · next h' => cases h.symm.trans h'; rfl

/-- Each pass but the last one takes a marker from what the text can hold. -/
theorem freePasses_le (reg : Registry (Action σ)) (last text : Text) (st : σ) :
    (freePasses reg last text st).1 ≤ supply text + 1 := by
  fun_induction freePasses reg last text st with
  | case1 => exact Nat.zero_le _
  | case2 last text st hlast h n run hrun ih =>
    rw [freePasses_same] at hrun
    cases hrun
    exact Nat.le_add_left _ _
  | case3 last text st hlast visit stop st' h => exact Nat.le_add_left _ _
  | case4 last text st hlast visit text' st' h hfewer n run hrun ih =>
    rw [hrun] at ih
    rw [supply_rewrote h]
    exact Nat.succ_le_succ ih

theorem noneIn_of_freePasses {last reached : Text} {halt : Halt} (hlast : text ≠ last)
    (h : (freePasses reg last text st).2.ending = .reached halt reached) :
    halt = .settled ∧ Marker.NoneIn reached := by
  fun_induction freePasses reg last text st with
  | case1 last st => exact absurd rfl hlast
  | case2 last text st _ hidle n run hrun ih =>
    rw [freePasses_same] at hrun
    cases hrun
    cases h
    exact ⟨rfl, pass_idle_iff.1 hidle⟩
  | case3 last text st _ visit stop st' hstopped => cases stop <;> cases h
  | case4 last text st _ visit text' st' hrewrote hfewer n run hrun ih =>
    rw [hrun] at ih
    exact ih (ne_of_rewrote hrewrote) h

theorem Rounds.freePasses_eq {maxLength more : Nat} {run : Run σ} (h : Rounds reg maxLength more text st run)
    (hfree : run.Unhalted) {last : Text} (hlast : text ≠ last) : (freePasses reg last text st).2 = run := by
  induction h generalizing last with
  | settled h => rw [freePasses_idle hlast h]
  | stopped h => rw [freePasses_stopped hlast h]
  | outOfIterations h => exact absurd rfl hfree.1
  | tooLong h _ => exact absurd rfl hfree.2
  | next h _ _ ih => rw [freePasses_rewrote hlast h, ih hfree (ne_of_rewrote h)]

theorem Rounds.noneIn {maxLength more : Nat} {reached : Text} {run : Run σ}
    (h : Rounds reg maxLength more text st run) (hending : run.ending = .reached .settled reached) :
    Marker.NoneIn reached := by
  induction h with
  | settled h =>
    cases hending
    exact pass_idle_iff.1 h
  | @stopped _ _ _ _ stop _ h => cases stop <;> cases hending
  | outOfIterations h => cases hending
  | tooLong h _ => cases hending
  | next _ _ _ ih => exact ih hending

inductive Passing (reg : Registry (Action σ)) (text : Text) (st : σ) : Pass σ → Prop
  | idle (h : Marker.NoneIn text) : Passing reg text st .idle
  | raised {m : Marker} {stop : Stop} {st' : σ} (hm : Marker.first? text = some m)
      (h : dispatch reg m.contents st = (.error stop, st')) :
      Passing reg text st (.stopped ⟨m.contents, m.after, text.length, st⟩ stop st')
  | unwritten {m : Marker} {cause : Fault} {st' : σ} (hm : Marker.first? text = some m)
      (h : dispatch reg m.contents st = (.ok (.unwritable cause), st')) :
      Passing reg text st (.stopped ⟨m.contents, m.after, text.length, st⟩ (.fault cause) st')
  | rewrote {m : Marker} {a : Answer} {new : Text} {st' : σ} (hm : Marker.first? text = some m)
      (h : dispatch reg m.contents st = (.ok a, st')) (hnew : replacement m.contents a = .ok new)
      (hopen : text.count '{' = (m.before ++ (new ++ m.after)).count '{' + 1)
      (hclose : text.count '}' = (m.before ++ (new ++ m.after)).count '}' + 1)
      (hne : m.before ++ (new ++ m.after) ≠ text) :
      Passing reg text st
        (.rewrote ⟨m.contents, m.after, text.length, st⟩ (m.before ++ (new ++ m.after)) st')

theorem passing (reg : Registry (Action σ)) (text : Text) (st : σ) : Passing reg text st (pass reg text st) := by
  cases h : pass reg text st with
  | idle => exact .idle (pass_idle_iff.1 h)
  | stopped visit stop st' =>
    obtain ⟨m, hm, rfl, hsubst⟩ := pass_stopped h
    obtain hd | ⟨cause, hd, rfl⟩ := substitute_eq_error_iff.1 hsubst
    · exact .raised hm hd
    · exact .unwritten hm hd
  | rewrote visit text' st' =>
    obtain ⟨hopen, hclose⟩ := count_rewrote h
    have hne := ne_of_rewrote h
    obtain ⟨m, new, hm, rfl, hsubst, rfl⟩ := pass_rewrote h
    obtain ⟨a, hd, hnew⟩ := substitute_eq_ok_iff.1 hsubst
    exact .rewrote hm hd hnew hopen hclose hne

/-- The passes finish. A pass finds no marker and changes nothing, or the method of its
marker stops it or answers something that has no text, or it leaves a text with one opening
and one closing brace fewer, which is another text. So passes are settled only where no
marker is left, and without limits there are no more of them than the text can hold
markers, and one. -/
structure Finishes (reg : Registry (Action σ)) : Prop where
  step : ∀ text st, Passing reg text st (pass reg text st)
  settled : ∀ limits input st reached, (run reg limits input st).ending = .reached .settled reached →
    Marker.NoneIn reached
  few : ∀ text st, (freePasses reg [] text st).1 ≤ min (text.count '{') (text.count '}') + 1
  done : ∀ text st halt reached, (freePasses reg [] text st).2.ending = .reached halt reached →
    halt = .settled ∧ Marker.NoneIn reached
  unlimited : ∀ limits input st, (run reg limits input st).Unhalted →
    (freePasses reg [] (StandIn.hide input) st).2 = run reg limits input st

theorem passes_finish (reg : Registry (Action σ)) : Finishes reg where
  step := passing reg
  settled limits input st reached hending := by
    obtain ⟨-, hrun⟩ | ⟨-, hrounds⟩ := run_rounds reg limits input st
    · rw [hrun] at hending
      cases hending
    · exact hrounds.noneIn hending
  few := freePasses_le reg []
  done text st halt reached hending := by
    by_cases hempty : text = []
    · subst hempty
      rw [freePasses_same] at hending
      cases hending
      exact ⟨rfl, Or.inl List.not_mem_nil⟩
    · exact noneIn_of_freePasses hempty hending
  unlimited limits input st hfree := by
    by_cases hempty : StandIn.hide input = []
    · rw [run_eq_passes, hempty, freePasses_same, passes_same]
    · obtain ⟨-, hrun⟩ | ⟨-, hrounds⟩ := run_rounds reg limits input st
      · rw [hrun] at hfree
        exact absurd rfl hfree.2
      · exact hrounds.freePasses_eq hfree hempty

/-- A pass that neither changes the text nor leaves it as it was, with a method that does
not stop. -/
theorem pass_stopped_by_answer :
    let text := Marker.braced ['v']
    let w := World.ofEnvironment Table.empty []
    (∀ stop, (dispatch (valued .tooLong) ['v'] w).1 ≠ .error stop) ∧
      pass (valued .tooLong) text w = .stopped ⟨['v'], [], 3, w⟩ (.fault (.number .tooManyDigits)) w := by
  intro text w
  have hdispatch := dispatch_tooLong w
  refine ⟨fun stop h => ?_, ?_⟩
  · rw [hdispatch] at h
    cases h
  · have hsubst : substitute (valued .tooLong) ['v'] w = (.error (.fault (.number .tooManyDigits)), w) :=
      substitute_eq_error_iff.2 (Or.inr ⟨_, hdispatch, rfl⟩)
    have hfirst : Marker.first? text = some ⟨[], ['v'], []⟩ := rfl
    simp only [pass, hfirst, hsubst]
    rfl

end Expansion

end TagExpander
