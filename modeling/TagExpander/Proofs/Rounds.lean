import TagExpander.Expansion
import Mathlib

/-! A run as the passes that it makes. What one pass can do is said once, and what holds
of a run is proved by induction on its passes: an idle pass settles the text, a method
stops the run, or the text is rewritten, and then a limit halts the run or it goes on. -/

namespace TagExpander.Expansion

variable {σ : Type} {reg : Registry (Action σ)} {text text' : Text} {st st' : σ} {visit : Visit σ}

theorem pass_rewrote (h : pass reg text st = .rewrote visit text' st') :
    ∃ m new, Marker.first? text = some m ∧ visit = ⟨m.contents, m.after, text.length, st⟩ ∧
      substitute reg m.contents st = (.ok new, st') ∧ text' = m.before ++ (new ++ m.after) := by
  unfold pass at h
  cases hm : Marker.first? text with
  | none => simp [hm] at h
  | some m =>
    rcases hd : substitute reg m.contents st with ⟨stop | new, left⟩
    · simp [hm, hd] at h
    · simp only [hm, hd] at h
      cases h
      exact ⟨m, new, rfl, rfl, hd, rfl⟩

theorem pass_stopped {stop : Stop} (h : pass reg text st = .stopped visit stop st') :
    ∃ m, Marker.first? text = some m ∧ visit = ⟨m.contents, m.after, text.length, st⟩ ∧
      substitute reg m.contents st = (.error stop, st') := by
  unfold pass at h
  cases hm : Marker.first? text with
  | none => simp [hm] at h
  | some m =>
    rcases hd : substitute reg m.contents st with ⟨stop' | new, left⟩
    · simp only [hm, hd] at h
      cases h
      exact ⟨m, rfl, rfl, hd⟩
    · simp [hm, hd] at h

/-- One opening and one closing brace fewer are left, whatever the method answers. -/
theorem count_rewrote (h : pass reg text st = .rewrote visit text' st') :
    text.count '{' = text'.count '{' + 1 ∧ text.count '}' = text'.count '}' + 1 := by
  obtain ⟨m, new, hm, -, hd, rfl⟩ := pass_rewrote h
  obtain ⟨rfl, -, hopen, hclose⟩ := Marker.first?_eq_some_iff.1 hm
  obtain ⟨hnewOpen, hnewClose⟩ := notMem_substitute hd
  simp only [Marker.whole, List.count_append, List.count_cons, List.count_eq_zero.2 hopen,
    List.count_eq_zero.2 hclose, List.count_eq_zero.2 hnewOpen, List.count_eq_zero.2 hnewClose]
  constructor <;> simp <;> omega

theorem ne_of_rewrote (h : pass reg text st = .rewrote visit text' st') : text' ≠ text := by
  intro he
  have hcount := (count_rewrote h).2
  rw [he] at hcount
  omega

/-- How a run over a text goes. After the next answer there may be `more`. -/
inductive Rounds (reg : Registry (Action σ)) (maxLength : Nat) : Nat → Text → σ → Run σ → Prop
  | settled {more : Nat} {text : Text} {st : σ} (h : pass reg text st = .idle) :
      Rounds reg maxLength more text st ⟨.reached .settled text, st, []⟩
  | stopped {more : Nat} {text : Text} {st : σ} {visit : Visit σ} {stop : Stop} {st' : σ}
      (h : pass reg text st = .stopped visit stop st') :
      Rounds reg maxLength more text st ⟨.ofStop visit.contents stop, st', [visit]⟩
  | outOfIterations {text : Text} {st : σ} {visit : Visit σ} {text' : Text} {st' : σ}
      (h : pass reg text st = .rewrote visit text' st') :
      Rounds reg maxLength 0 text st ⟨.reached .outOfIterations text', st', [visit]⟩
  | tooLong {more : Nat} {text : Text} {st : σ} {visit : Visit σ} {text' : Text} {st' : σ}
      (h : pass reg text st = .rewrote visit text' st') (hlength : maxLength < text'.length) :
      Rounds reg maxLength (more + 1) text st ⟨.reached .tooLong text', st', [visit]⟩
  | next {more : Nat} {text : Text} {st : σ} {visit : Visit σ} {text' : Text} {st' : σ} {run : Run σ}
      (h : pass reg text st = .rewrote visit text' st') (hlength : text'.length ≤ maxLength)
      (rest : Rounds reg maxLength more text' st' run) :
      Rounds reg maxLength (more + 1) text st (run.cons visit)

theorem Rounds.length_visits_le {maxLength more : Nat} {run : Run σ} (h : Rounds reg maxLength more text st run) :
    run.visits.length ≤ text.count '}' := by
  induction h with
  | settled h => exact Nat.zero_le _
  | stopped h =>
    obtain ⟨m, hm, -, -⟩ := pass_stopped h
    obtain ⟨rfl, -, -, -⟩ := Marker.first?_eq_some_iff.1 hm
    exact List.count_pos_iff.2 (by simp [Marker.whole])
  | outOfIterations h => simp [(count_rewrote h).2]
  | tooLong h _ => simp [(count_rewrote h).2]
  | next h _ _ ih =>
    rw [(count_rewrote h).2]
    exact Nat.succ_le_succ ih

theorem passes_same (reg : Registry (Action σ)) (maxLength n : Nat) (text : Text) (st : σ) :
    passes reg maxLength n text text st = ⟨.reached .settled text, st, []⟩ := by
  cases n <;> simp [passes]

/-- The passes over a text that was changed before make up the rounds over it. A pass
that rewrites changes the text, so only an idle one settles it. -/
theorem rounds_passes {maxLength more : Nat} {last : Text} (hlast : text ≠ last)
    (hlength : text.length ≤ maxLength) :
    Rounds reg maxLength more text st (passes reg maxLength (more + 1) last text st) := by
  induction more generalizing text last st with
  | zero =>
    rw [passes, if_neg hlast, if_neg (Nat.not_lt.2 hlength)]
    cases h : pass reg text st with
    | idle => rw [passes_same]; exact .settled h
    | stopped visit stop st' => exact .stopped h
    | rewrote visit text' st' =>
      simp only [passes, if_neg (ne_of_rewrote h)]
      exact .outOfIterations h
  | succ more ih =>
    rw [passes, if_neg hlast, if_neg (Nat.not_lt.2 hlength)]
    cases h : pass reg text st with
    | idle => rw [passes_same]; exact .settled h
    | stopped visit stop st' => exact .stopped h
    | rewrote visit text' st' =>
      have hnext := ne_of_rewrote h
      by_cases hlong : maxLength < text'.length
      · simp only [passes, if_neg hnext, if_pos hlong]
        exact .tooLong h hlong
      · exact .next h (Nat.not_lt.1 hlong) (ih hnext (Nat.not_lt.1 hlong))

/-- A run makes its rounds, unless the text is too long from the beginning. -/
theorem run_rounds (reg : Registry (Action σ)) (limits : Limits) (input : Text) (st : σ) :
    (limits.maxLength.value < (StandIn.hide input).length ∧
      run reg limits input st = ⟨.reached .tooLong (StandIn.hide input), st, []⟩) ∨
    ((StandIn.hide input).length ≤ limits.maxLength.value ∧
      Rounds reg limits.maxLength.value (limits.iterations.value - 1) (StandIn.hide input) st
        (run reg limits input st)) := by
  obtain ⟨more, hmore⟩ := Nat.exists_eq_succ_of_ne_zero limits.iterations.positive.ne'
  rw [run_eq_passes, hmore, Nat.succ_sub_one]
  by_cases hempty : StandIn.hide input = []
  · right
    rw [hempty, passes_same]
    exact ⟨Nat.zero_le _, .settled rfl⟩
  by_cases hlong : limits.maxLength.value < (StandIn.hide input).length
  · left
    refine ⟨hlong, ?_⟩
    rw [passes, if_neg hempty, if_pos hlong]
  · right
    exact ⟨Nat.not_lt.1 hlong, rounds_passes hempty (Nat.not_lt.1 hlong)⟩

end TagExpander.Expansion
