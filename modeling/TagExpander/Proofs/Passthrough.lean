import TagExpander.Proofs.Course
import TagExpander.Proofs.Restoring
import TagExpander.Proofs.Rounds

/-! Markers that no method answers. Such a marker is shielded and left where it stands:
a pass changes the text that it works on, but not what this text stands for. So it
cannot be told from the answer where a limit halted the run. -/

namespace TagExpander.Expansion

variable {σ ε : Type} {reg : Registry (Action σ)}

open StandIn

/-- The marker was left without an answer, and what `view` shows of the state is as it
was. -/
def Passed (reg : Registry (Action σ)) (view : σ → ε) (v : Visit σ) : Prop :=
  (dispatch reg v.contents v.state).1 = .ok .nothing ∧ view (dispatch reg v.contents v.state).2 = view v.state

theorem pass_passed {view : σ → ε} {text text' : Text} {st st' : σ} {visit : Visit σ}
    (h : pass reg text st = .rewrote visit text' st') (hpassed : Passed reg view visit) :
    restore text' = restore text ∧ view st' = view st := by
  obtain ⟨m, new, hm, rfl, hsubst, rfl⟩ := pass_rewrote h
  obtain ⟨a, hd, hnew⟩ := substitute_eq_ok_iff.1 hsubst
  obtain ⟨hnothing, hview⟩ := hpassed
  rw [hd] at hnothing hview
  cases hnothing
  cases hnew
  obtain ⟨rfl, -, -, -⟩ := Marker.first?_eq_some_iff.1 hm
  refine ⟨?_, hview⟩
  calc restore (m.before ++ (shield (Marker.braced m.contents) ++ m.after))
      = restore m.before ++ (restore (Marker.braced m.contents) ++ restore m.after) := by
        rw [restore_append, restore_append, restore_shield]
    _ = restore (m.before ++ (Marker.braced m.contents ++ m.after)) := by
        rw [restore_append, restore_append]
    _ = restore m.whole := by simp [Marker.whole, Marker.braced]

/-- A run that leaves all its markers without an answer comes to a text that stands for
what its first text stands for, wherever it is halted. -/
theorem Rounds.passed {view : σ → ε} {maxLength more : Nat} {text : Text} {st : σ} {run : Run σ}
    (h : Rounds reg maxLength more text st run) (hpassed : ∀ v ∈ run.visits, Passed reg view v) :
    ∃ halt reached, run.ending = .reached halt reached ∧ restore reached = restore text ∧
      view run.state = view st := by
  induction h with
  | settled h => exact ⟨_, _, rfl, rfl, rfl⟩
  | stopped h =>
    obtain ⟨m, -, rfl, hsubst⟩ := pass_stopped h
    have hnothing := (hpassed _ List.mem_cons_self).1
    obtain hd | ⟨cause, hd, -⟩ := substitute_eq_error_iff.1 hsubst
    all_goals
      rw [hd] at hnothing
      cases hnothing
  | outOfIterations h =>
    obtain ⟨htext, hstate⟩ := pass_passed h (hpassed _ List.mem_cons_self)
    exact ⟨_, _, rfl, htext, hstate⟩
  | tooLong h _ =>
    obtain ⟨htext, hstate⟩ := pass_passed h (hpassed _ List.mem_cons_self)
    exact ⟨_, _, rfl, htext, hstate⟩
  | next h _ _ ih =>
    obtain ⟨htext, hstate⟩ := pass_passed h (hpassed _ List.mem_cons_self)
    obtain ⟨halt, reached, hending, htext', hstate'⟩ := ih fun v hv => hpassed v (List.mem_cons_of_mem _ hv)
    exact ⟨halt, reached, hending, htext'.trans htext, hstate'.trans hstate⟩

/-- An expansion that leaves all its markers without an answer gives the input back,
restored and cut to the limit of the output, whatever the limits are. -/
theorem expand_passed {limits : Limits} {input : Text} {st : σ} (view : σ → ε)
    (hpassed : ∀ v ∈ (expand reg limits input st).visits, Passed reg view v) :
    let out := expand reg limits input st
    out.answer = .ok ((restore input).take limits.maxOutput.value) ∧
      (IsPlain input → out.answer = .ok (input.take limits.maxOutput.value)) ∧
      view out.state = view st := by
  intro out
  have hrun : ∃ halt reached, (run reg limits input st).ending = .reached halt reached ∧
      restore reached = restore (hide input) ∧ view (run reg limits input st).state = view st := by
    obtain ⟨-, hlong⟩ | ⟨-, hrounds⟩ := run_rounds reg limits input st
    · rw [hlong]
      exact ⟨_, _, rfl, rfl, rfl⟩
    · exact hrounds.passed hpassed
  obtain ⟨halt, reached, hending, htext, hstate⟩ := hrun
  have hanswer : out.answer = .ok ((restore input).take limits.maxOutput.value) := by
    rw [← restore_scan input, ← hide_eq_scan, ← htext]
    exact answer_of_reached hending
  refine ⟨hanswer, fun hplain => ?_, hstate⟩
  rw [hanswer, restore_of_isPlain hplain]

/-- The method `q` counts its calls in the second place of the state and answers nothing. -/
def silent : Registry (Action (Nat × Nat)) :=
  (Registry.build
    [⟨['q'], none, some (.whole fun _ k => (.ok .nothing, k.1, k.2 + 1)), by decide, by simp⟩]).1

/-- Halted after an unknown name and a call of `q`, with a form that `q` does not have
still to come. -/
theorem expand_passed_sample :
    let limits : Limits := ⟨Limit.count 2, Limit.count 99, Limit.count 12⟩
    let input := "\x7bq:\x7bw\x7d\\\x7b\x7d|\x7bq\x7d\x7d".toList
    let out := expand silent limits input (5, 0)
    (∀ v ∈ out.visits, Passed silent Prod.fst v) ∧ out.state = (5, 1) ∧
      out.answer = .ok (input.take 12) ∧ out.state.1 = 5 := by
  intro limits input out
  have hpassed : ∀ v ∈ out.visits, Passed silent Prod.fst v := by
    intro v hv
    change v ∈ [_, _] at hv
    rcases List.mem_pair.1 hv with rfl | rfl <;> exact ⟨rfl, rfl⟩
  obtain ⟨-, hanswer, hstate⟩ := expand_passed Prod.fst hpassed
  exact ⟨hpassed, rfl, hanswer (by decide), hstate⟩

end TagExpander.Expansion
