import TagExpander.Expansion
import Mathlib

/-! The course of an expansion: all that happens to a text when no limit stops it.
A run is its course cut short by the limits, so what holds of courses holds of runs
under every limit. A course depends on the state only through what the methods make
of it: over related states it takes the same way. -/

namespace TagExpander

variable {σ τ : Type}

/-- Markers are answered one after the other, until none is left or a method stops.
After an answer there is the text that it leads to, and the rest of the course. -/
inductive Course (σ : Type) where
  | settled (text : Text) (state : σ)
  | stopped (visit : Visit σ) (stop : Stop) (state : σ)
  | answered (visit : Visit σ) (text : Text) (state : σ) (next : Course σ)

namespace Course

/-- The course as far as it goes within a length and with so many answers after the
next one. -/
def within (maxLength : Nat) : Nat → Course σ → Run σ
  | _, settled text st => ⟨.reached .settled text, st, []⟩
  | _, stopped visit stop st => ⟨Ending.ofStop visit.contents stop, st, [visit]⟩
  | 0, answered visit text st _ => ⟨.reached .outOfIterations text, st, [visit]⟩
  | more + 1, answered visit text st next =>
    if maxLength < text.length then ⟨.reached .tooLong text, st, [visit]⟩
    else (next.within maxLength more).cons visit

theorem within_settled (maxLength more : Nat) (text : Text) (st : σ) :
    (settled text st).within maxLength more = ⟨.reached .settled text, st, []⟩ := by
  cases more <;> rfl

theorem within_stopped (maxLength more : Nat) (visit : Visit σ) (stop : Stop) (st : σ) :
    (stopped visit stop st).within maxLength more = ⟨Ending.ofStop visit.contents stop, st, [visit]⟩ := by
  cases more <;> rfl

theorem within_answered (maxLength more : Nat) (visit : Visit σ) (text : Text) (st : σ) (next : Course σ) :
    (answered visit text st next).within maxLength (more + 1) =
      if maxLength < text.length then ⟨.reached .tooLong text, st, [visit]⟩
      else (next.within maxLength more).cons visit := rfl

def whole : Course σ → Run σ
  | settled text st => ⟨.reached .settled text, st, []⟩
  | stopped visit stop st => ⟨Ending.ofStop visit.contents stop, st, [visit]⟩
  | answered visit _ _ next => next.whole.cons visit

end Course

def Ending.halt? : Ending → Option Halt
  | .reached halt _ => some halt
  | _ => none

/-- The markers that an expansion evaluated, as calls, with the states they were
evaluated on. -/
def Outcome.calls (out : Outcome σ) : List (Call × σ) :=
  out.visits.map fun v => (Call.ofContents v.contents, v.state)

def Record.ofLimit : Record → Bool
  | .stoppedAfter _ => true
  | .stoppedAtLength _ _ => true
  | .truncated _ _ => true
  | _ => false

def Outcome.Unlimited (out : Outcome σ) : Prop :=
  ∀ r ∈ out.records, r.ofLimit = false

instance (out : Outcome σ) : Decidable out.Unlimited :=
  inferInstanceAs (Decidable (∀ r ∈ out.records, r.ofLimit = false))

/-- The expansion comes to its whole text, not stopped by a method or a limit. -/
def Outcome.Gives (out : Outcome σ) (text : Text) : Prop :=
  out.records = [] ∧ out.answer = .ok text

theorem Outcome.Gives.unlimited {out : Outcome σ} {text : Text} (h : out.Gives text) : out.Unlimited := by
  intro r hr
  rw [h.1] at hr
  cases hr

def Ending.answer : Ending → Except Fault Text × List Record
  | .reached _ text => (.ok (StandIn.restore text), [])
  | .aborted contents message => (.ok message, [.aborted contents message])
  | .faulted cause => (.error cause, [])

def Run.outcome (run : Run σ) : Outcome σ :=
  ⟨run.ending.answer.1, run.ending.answer.2, run.state, run.visits⟩

def Run.Unhalted (run : Run σ) : Prop :=
  run.ending.halt? ≠ some .outOfIterations ∧ run.ending.halt? ≠ some .tooLong

instance (run : Run σ) : Decidable run.Unhalted :=
  inferInstanceAs (Decidable (_ ∧ _))

theorem fst_cut (limit : Limit) (text : Text) : (Expansion.cut limit text).1 = text.take limit.value := by
  unfold Expansion.cut
  split_ifs with h
  · rfl
  · exact (List.take_of_length_le (Nat.not_lt.1 h)).symm

theorem Course.within_of_unhalted {maxLength more : Nat} {c : Course σ}
    (h : (c.within maxLength more).Unhalted) : c.within maxLength more = c.whole := by
  induction c generalizing more with
  | settled text st => exact within_settled maxLength more text st
  | stopped visit stop st => exact within_stopped maxLength more visit stop st
  | answered visit text st next ih =>
    cases more with
    | zero => exact absurd rfl h.1
    | succ more =>
      unfold within at h ⊢
      split_ifs at h ⊢
      · exact absurd rfl h.2
      · rw [ih h]; rfl

namespace Expansion

/-- The course of a text, from the place that a sweep has come to. -/
def course (reg : Registry (Action σ)) : Text → List Text → Text → σ → Course σ
  | top, below, [], st => .settled (unwound [] top below) st
  | top, below, c :: r, st =>
    if c = '{' then course reg [] (top :: below) r st
    else if c = '}' then
      match below with
      | [] => .settled (unwound (c :: r) top []) st
      | outer :: below =>
        let visit : Visit σ := ⟨top.reverse, r, (unwound (c :: r) top (outer :: below)).length, st⟩
        match substitute reg top.reverse st with
        | (.error stop, st') => .stopped visit stop st'
        | (.ok new, st') =>
          let top' := new.reverse ++ outer
          .answered visit (unwound r top' below) st' (course reg top' below r st')
    else course reg (c :: top) below r st

variable (reg : Registry (Action σ)) (top : Text) (below : List Text) (r : Text) (st : σ)

@[simp] theorem course_nil : course reg top below [] st = .settled (unwound [] top below) st := by
  rw [course]

@[simp] theorem course_open : course reg top below ('{' :: r) st = course reg [] (top :: below) r st := by
  rw [course.eq_def]
  simp

@[simp] theorem course_unmatched :
    course reg top [] ('}' :: r) st = .settled (unwound ('}' :: r) top []) st := by
  rw [course.eq_def]
  simp

theorem course_char {c : Char} (ho : c ≠ '{') (hc : c ≠ '}') :
    course reg top below (c :: r) st = course reg (c :: top) below r st := by
  rw [course.eq_def]
  simp [ho, hc]

variable {reg st} in
theorem course_stop {stop : Stop} {st' : σ} (h : substitute reg top.reverse st = (.error stop, st'))
    (outer : Text) :
    course reg top (outer :: below) ('}' :: r) st =
      .stopped ⟨top.reverse, r, (unwound ('}' :: r) top (outer :: below)).length, st⟩ stop st' := by
  rw [course.eq_def]
  simp [h]

variable {reg st} in
theorem course_answer {new : Text} {st' : σ} (h : substitute reg top.reverse st = (.ok new, st')) (outer : Text) :
    course reg top (outer :: below) ('}' :: r) st =
      .answered ⟨top.reverse, r, (unwound ('}' :: r) top (outer :: below)).length, st⟩
        (unwound r (new.reverse ++ outer) below) st'
        (course reg (new.reverse ++ outer) below r st') := by
  rw [course.eq_def]
  simp [h]

variable {reg top below r st}

/-- A course is followed character by character: at a closing brace its marker stops the
course, or is answered and the course goes on behind it. -/
@[elab_as_elim]
theorem course_induction (reg : Registry (Action σ)) {motive : Text → List Text → Text → σ → Prop}
    (nil : ∀ top below st, motive top below [] st)
    (opening : ∀ top below r st, motive [] (top :: below) r st → motive top below ('{' :: r) st)
    (unmatched : ∀ top r st, motive top [] ('}' :: r) st)
    (stop : ∀ top outer below r st stop st', substitute reg top.reverse st = (.error stop, st') →
      motive top (outer :: below) ('}' :: r) st)
    (answer : ∀ top outer below r st new st', substitute reg top.reverse st = (.ok new, st') →
      motive (new.reverse ++ outer) below r st' →
        motive top (outer :: below) ('}' :: r) st)
    (char : ∀ c top below r st, c ≠ '{' → c ≠ '}' → motive (c :: top) below r st →
      motive top below (c :: r) st)
    (top : Text) (below : List Text) (r : Text) (st : σ) : motive top below r st := by
  induction r generalizing top below st with
  | nil => exact nil top below st
  | cons c r ih =>
    by_cases ho : c = '{'
    · exact ho ▸ opening top below r st (ih _ _ _)
    by_cases hc : c = '}'
    · subst hc
      cases below with
      | nil => exact unmatched top r st
      | cons outer below =>
        rcases h : substitute reg top.reverse st with ⟨e | new, st'⟩
        · exact stop top outer below r st e st' h
        · exact answer top outer below r st new st' h (ih _ _ _)
    · exact char c top below r st ho hc (ih _ _ _)

theorem length_unwound (r top : Text) (below : List Text) :
    (unwound r top below).length = r.length + top.length + (below.map (·.length + 1)).sum := by
  induction below generalizing r top with
  | nil => simp [unwound]; omega
  | cons outer below ih =>
    rw [unwound, ih]
    simp only [List.length_cons, List.length_append, List.length_reverse, List.map_cons, List.sum_cons]
    omega

theorem sweep_eq_within {maxLength more length : Nat} (hlength : (unwound r top below).length = length) :
    sweep reg maxLength more length top below r st =
      (course reg top below r st).within maxLength more := by
  rw [length_unwound] at hlength
  induction top, below, r, st using course_induction reg generalizing more length with
  | nil top below st => cases more <;> simp [sweep, Course.within]
  | opening top below r st ih =>
    rw [course_open, sweep.eq_def]
    simp only [List.length_cons, List.length_nil, List.map_cons, List.sum_cons] at hlength ih
    simp only [if_true]
    exact ih (by omega)
  | unmatched top r st =>
    rw [course_unmatched, sweep.eq_def]
    cases more <;> simp [Course.within]
  | stop top outer below r st stop st' h =>
    rw [course_stop top below r h, sweep.eq_def, length_unwound, hlength]
    cases more <;> simp [Course.within, h]
  | answer top outer below r st new st' h ih =>
    rw [course_answer top below r h, sweep.eq_def, length_unwound, hlength]
    simp only [List.length_cons, List.length_append, List.length_reverse, List.map_cons, List.sum_cons]
      at hlength ih
    have hnew : (unwound r (new.reverse ++ outer) below).length =
        length - (top.length + 2) + new.length := by
      simp only [length_unwound, List.length_append, List.length_reverse]
      omega
    cases more with
    | zero => simp [Course.within, h, Run.cons]
    | succ more =>
      simp only [h, show ('}' = '{') = False by decide, if_false, if_true, Course.within, hnew]
      split_ifs
      · rfl
      · rw [ih (by omega)]
  | char c top below r st ho hc ih =>
    rw [course_char reg top below r st ho hc, sweep.eq_def]
    simp only [ho, hc, if_false]
    simp only [List.length_cons] at hlength ih
    exact ih (by omega)

/-- A run is its course within the limits, unless the text is too long from the
beginning. -/
theorem run_eq_within (reg : Registry (Action σ)) (limits : Limits) (input : Text) (st : σ) :
    run reg limits input st =
      if limits.maxLength.value < (StandIn.hide input).length then
        ⟨.reached .tooLong (StandIn.hide input), st, []⟩
      else (course reg [] [] (StandIn.hide input) st).within limits.maxLength.value
        (limits.iterations.value - 1) := by
  unfold run
  obtain ⟨more, hmore⟩ := Nat.exists_eq_succ_of_ne_zero limits.iterations.positive.ne'
  rw [hmore, Nat.succ_sub_one]
  cases StandIn.hide input with
  | nil => cases more <;> simp [sweepAll, Course.within, unwound]
  | cons c r =>
    rw [sweepAll, sweep_eq_within (by simp [unwound])]
    simp

theorem run_of_unhalted {limits : Limits} {input : Text} (h : (run reg limits input st).Unhalted) :
    run reg limits input st = (course reg [] [] (StandIn.hide input) st).whole := by
  rw [run_eq_within] at h ⊢
  split_ifs at h ⊢
  · exact absurd rfl h.2
  · exact Course.within_of_unhalted h

theorem expand_of_unlimited {limits : Limits} {input : Text} (h : (expand reg limits input st).Unlimited) :
    expand reg limits input st = (course reg [] [] (StandIn.hide input) st).whole.outcome := by
  have houtcome : (run reg limits input st).Unhalted ∧
      expand reg limits input st = (run reg limits input st).outcome := by
    unfold expand at h ⊢
    generalize run reg limits input st = run at h ⊢
    obtain ⟨ending, st', visits⟩ := run
    cases ending with
    | reached halt text =>
      have hcut : ¬ limits.maxOutput.value < (StandIn.restore text).length := fun hlt => by
        have := h (.truncated (StandIn.restore text).length limits.maxOutput) (by simp [answer, cut, hlt])
        cases this
      cases halt with
      | settled =>
        simp [Run.Unhalted, Ending.halt?, Run.outcome, Ending.answer, answer, cut, haltRecords, hcut]
      | outOfIterations => cases h _ (List.mem_append_left _ List.mem_cons_self)
      | tooLong => cases h _ (List.mem_append_left _ List.mem_cons_self)
    | aborted contents message => simp [Run.Unhalted, Ending.halt?, Run.outcome, Ending.answer, answer]
    | faulted cause => simp [Run.Unhalted, Ending.halt?, Run.outcome, Ending.answer, answer]
  rw [houtcome.2, run_of_unhalted houtcome.1]

theorem answer_of_reached {limits : Limits} {input text : Text} {halt : Halt}
    (h : (run reg limits input st).ending = .reached halt text) :
    (expand reg limits input st).answer = .ok ((StandIn.restore text).take limits.maxOutput.value) := by
  rw [expand, h]
  exact congrArg Except.ok (fst_cut _ _)

/-- The states that the visits were made on, one after the other: each method works on
what the one before it left, also where it stops, and the last one leaves `left`. -/
def Chained (reg : Registry (Action σ)) (left : σ) : σ → List (Visit σ) → Prop
  | st, [] => left = st
  | st, v :: visits => v.state = st ∧ Chained reg left (dispatch reg v.contents st).2 visits

theorem chained_within (reg : Registry (Action σ)) (maxLength more : Nat) (top : Text) (below : List Text)
    (r : Text) (st : σ) :
    let run := (course reg top below r st).within maxLength more
    Chained reg run.state st run.visits := by
  induction top, below, r, st using course_induction reg generalizing more with
  | nil top below st =>
    rw [course_nil, Course.within_settled]
    rfl
  | opening top below r st ih => simpa using ih more
  | unmatched top r st =>
    rw [course_unmatched, Course.within_settled]
    rfl
  | stop top outer below r st stop st' h =>
    rw [course_stop _ _ _ h, Course.within_stopped]
    exact ⟨rfl, (congrArg Prod.snd h).symm⟩
  | answer top outer below r st new st' h ih =>
    obtain rfl : (dispatch reg top.reverse st).2 = st' := congrArg Prod.snd h
    rw [course_answer _ _ _ h]
    cases more with
    | zero => exact ⟨rfl, rfl⟩
    | succ more =>
      unfold Course.within
      split_ifs
      · exact ⟨rfl, rfl⟩
      · exact ⟨rfl, ih more⟩
  | char c top below r st ho hc ih =>
    rw [course_char _ _ _ _ _ ho hc]
    exact ih more

/-- Whatever ends a run, it leaves what its methods have made of the state. -/
theorem run_chained (reg : Registry (Action σ)) (limits : Limits) (input : Text) (st : σ) :
    Chained reg (run reg limits input st).state st (run reg limits input st).visits := by
  rw [run_eq_within]
  split_ifs
  · rfl
  · exact chained_within reg _ _ _ _ _ _

/-- Over related states the methods of two registries answer alike and leave related
states. -/
def Simulates (R : σ → τ → Prop) (reg : Registry (Action σ)) (reg' : Registry (Action τ)) : Prop :=
  ∀ contents st st', R st st' →
    (dispatch reg contents st).1 = (dispatch reg' contents st').1 ∧
      R (dispatch reg contents st).2 (dispatch reg' contents st').2

theorem Simulates.substitute {R : σ → τ → Prop} {reg : Registry (Action σ)} {reg' : Registry (Action τ)}
    (h : Simulates R reg reg') (contents : Text) {st : σ} {st' : τ} (hst : R st st') :
    (substitute reg contents st).1 = (substitute reg' contents st').1 ∧
      R (substitute reg contents st).2 (substitute reg' contents st').2 :=
  ⟨congrArg (· >>= replacement contents) (h contents st st' hst).1, (h contents st st' hst).2⟩

theorem within_simulates {R : σ → τ → Prop} {reg : Registry (Action σ)} {reg' : Registry (Action τ)}
    (h : Simulates R reg reg') (maxLength more : Nat) (top : Text) (below : List Text) (r : Text)
    {st : σ} {st' : τ} (hst : R st st') :
    let run := (course reg top below r st).within maxLength more
    let run' := (course reg' top below r st').within maxLength more
    run.ending = run'.ending ∧ R run.state run'.state := by
  induction top, below, r, st using course_induction reg generalizing more st' with
  | nil top below st =>
    rw [course_nil, course_nil, Course.within_settled, Course.within_settled]
    exact ⟨rfl, hst⟩
  | opening top below r st ih => simpa using ih more hst
  | unmatched top r st =>
    rw [course_unmatched, course_unmatched, Course.within_settled, Course.within_settled]
    exact ⟨rfl, hst⟩
  | stop top outer below r st stop left hd =>
    obtain ⟨hanswer, hleft⟩ := h.substitute top.reverse hst
    rcases hd' : substitute reg' top.reverse st' with ⟨answer', left'⟩
    rw [hd, hd'] at hanswer hleft
    cases hanswer
    rw [course_stop _ _ _ hd, course_stop _ _ _ hd', Course.within_stopped, Course.within_stopped]
    exact ⟨rfl, hleft⟩
  | answer top outer below r st new left hd ih =>
    obtain ⟨hanswer, hleft⟩ := h.substitute top.reverse hst
    rcases hd' : substitute reg' top.reverse st' with ⟨answer', left'⟩
    rw [hd, hd'] at hanswer hleft
    cases hanswer
    rw [course_answer _ _ _ hd, course_answer _ _ _ hd']
    cases more with
    | zero => exact ⟨rfl, hleft⟩
    | succ more =>
      unfold Course.within
      split_ifs
      · exact ⟨rfl, hleft⟩
      · exact ih more hleft
  | char c top below r st ho hc ih =>
    rw [course_char _ _ _ _ _ ho hc, course_char _ _ _ _ _ ho hc]
    exact ih more hst

theorem run_simulates {R : σ → τ → Prop} {reg : Registry (Action σ)} {reg' : Registry (Action τ)}
    (h : Simulates R reg reg') (limits : Limits) (input : Text) {st : σ} {st' : τ} (hst : R st st') :
    (run reg limits input st).ending = (run reg' limits input st').ending ∧
      R (run reg limits input st).state (run reg' limits input st').state := by
  rw [run_eq_within, run_eq_within]
  split_ifs
  · exact ⟨rfl, hst⟩
  · exact within_simulates h _ _ _ _ _ hst

/-- Three methods: `n` counts its calls and answers with a brace and a backslash, `u`
answers with its parameters, and `x` aborts. -/
def sample : Registry (Action Nat) :=
  (Registry.build
    [⟨['n'], some fun k => (.ok (.text ['}', '\\']), k + 1), none, by decide, by simp⟩,
     ⟨['u'], none, some (.whole fun p k => (.ok (.text p), k + 10)), by decide, by simp⟩,
     ⟨['x'], some fun k => (.error (.abort ['!']), k + 100), none, by decide, by simp⟩]).1

end Expansion

end TagExpander
