import TagExpander.OnePass
import TagExpander.Proofs.Course
import TagExpander.Proofs.Names

/-! Expansion by passes comes to the same as a single pass with a stack. The stack of
the single pass holds, restored, what the sweep has between its open braces, and
the rest of the input is the rest of the text before its escapes were hidden. -/

namespace TagExpander

variable {σ : Type}

def Registry.answered {α : Type} (reg : Registry α) (calls : List (Call × σ)) : List (Call × σ) :=
  calls.filter fun c => (reg.action? c.1).isSome

def Registry.AnswersPlain (reg : Registry (Action σ)) (visits : List (Visit σ)) : Prop :=
  ∀ v ∈ visits, ∀ answer ∈ (Expansion.dispatch reg v.contents v.state).1.toOption,
    ∀ t ∈ answer.text?, StandIn.IsPlain t

instance (reg : Registry (Action σ)) (visits : List (Visit σ)) : Decidable (reg.AnswersPlain visits) :=
  inferInstanceAs (Decidable (∀ v ∈ visits,
    ∀ answer ∈ (Expansion.dispatch reg v.contents v.state).1.toOption, ∀ t ∈ answer.text?, StandIn.IsPlain t))

namespace OnePass

variable (read : Text → Text) (reg : Registry (Action σ)) (n : Nat) (top : Text) (below : List Text)
  (r : Text) (st : σ)

theorem evaluate_zero (e : Bool) :
    evaluate read reg 0 e top below r st = ⟨.ok (written top below ++ r), st, []⟩ := by
  cases r <;> simp [evaluate]

theorem evaluate_char {e : Bool} {c : Char} (h : e = true ∨ c ≠ '{' ∧ c ≠ '}') :
    evaluate read reg (n + 1) e top below (c :: r) st =
      evaluate read reg (n + 1) (c = '\\') (top ++ [c]) below r st := by
  rw [evaluate.eq_def]
  simp only [if_pos h]

theorem evaluate_open :
    evaluate read reg (n + 1) false top below ('{' :: r) st =
      evaluate read reg (n + 1) false [] (top :: below) r st := by
  rw [evaluate.eq_def]
  simp

theorem evaluate_unmatched :
    evaluate read reg (n + 1) false top [] ('}' :: r) st = ⟨.ok (top ++ '}' :: r), st, []⟩ := by
  rw [evaluate.eq_def]
  simp

variable {reg top st}

theorem evaluate_stop {stop : Stop} (h : (reply reg (Call.ofText top) st).1 >>= replacement read top = .error stop)
    (outer : Text) :
    evaluate read reg (n + 1) false top (outer :: below) ('}' :: r) st =
      ⟨.error stop, (reply reg (Call.ofText top) st).2, [(Call.ofText top, st)]⟩ := by
  rw [evaluate.eq_def]
  simp [h]

theorem evaluate_answer {new : Text} (h : (reply reg (Call.ofText top) st).1 >>= replacement read top = .ok new)
    (outer : Text) :
    evaluate read reg (n + 1) false top (outer :: below) ('}' :: r) st =
      let result := evaluate read reg n false (outer ++ new) below r (reply reg (Call.ofText top) st).2
      { result with calls := (Call.ofText top, st) :: result.calls } := by
  rw [evaluate.eq_def]
  simp [h]

theorem replacement_congr {f g : Text → Text} (contents : Text) {a : Answer} (h : ∀ t ∈ a.text?, f t = g t) :
    replacement f contents a = replacement g contents a := by
  cases a with
  | text t => exact congrArg Except.ok (h t rfl)
  | _ => rfl

/-- If the answers of a pass read alike, the passes are alike. -/
theorem evaluate_congr {f g : Text → Text} {n : Nat} {e : Bool} {top : Text} {below : List Text} {r : Text}
    {st : σ} (h : ∀ c ∈ (evaluate f reg n e top below r st).calls, ∀ a ∈ (reply reg c.1 c.2).1.toOption,
      ∀ t ∈ a.text?, f t = g t) :
    evaluate f reg n e top below r st = evaluate g reg n e top below r st := by
  induction r generalizing n e top below st with
  | nil => cases n <;> simp [evaluate]
  | cons c r ih =>
    cases n with
    | zero => simp only [evaluate_zero]
    | succ n =>
      by_cases hc : e = true ∨ c ≠ '{' ∧ c ≠ '}'
      · rw [evaluate_char _ _ _ _ _ _ _ hc] at h ⊢
        rw [evaluate_char _ _ _ _ _ _ _ hc, ih h]
      · simp only [not_or, Bool.not_eq_true, not_and_or, not_not] at hc
        obtain ⟨rfl, rfl | rfl⟩ := hc
        · rw [evaluate_open] at h ⊢
          rw [evaluate_open, ih h]
        · cases below with
          | nil => rw [evaluate_unmatched, evaluate_unmatched]
          | cons outer below =>
            have hread (hfirst : ∀ a ∈ (reply reg (Call.ofText top) st).1.toOption, ∀ t ∈ a.text?, f t = g t) :
                (reply reg (Call.ofText top) st).1 >>= replacement f top =
                  (reply reg (Call.ofText top) st).1 >>= replacement g top := by
              rcases hv : (reply reg (Call.ofText top) st).1 with stop | a
              · rfl
              · exact replacement_congr top (hfirst a (by simp [hv, Except.toOption]))
            rcases hnew : (reply reg (Call.ofText top) st).1 >>= replacement f top with stop | new
            · rw [evaluate_stop f n below r hnew] at h ⊢
              have hfirst := h _ List.mem_cons_self
              rw [evaluate_stop g n below r ((hread hfirst).symm.trans hnew)]
            · rw [evaluate_answer f n below r hnew] at h ⊢
              have hfirst := h _ List.mem_cons_self
              have hrest := ih fun c hc => h c (List.mem_cons_of_mem _ hc)
              rw [evaluate_answer g n below r ((hread hfirst).symm.trans hnew), hrest]

theorem written_append (t x : Text) (below : List Text) : written (t ++ x) below = written t below ++ x := by
  induction below generalizing t x with
  | nil => rfl
  | cons outer below ih =>
    simp only [written, List.foldl_cons] at ih ⊢
    rw [← List.cons_append, ← List.append_assoc, ih]

end OnePass

namespace Expansion

open StandIn

def plain (piece : Text) : Text := restore piece.reverse

theorem plain_append (new piece : Text) : plain (new.reverse ++ piece) = plain piece ++ restore new := by
  simp [plain]

theorem restore_unwound (r top : Text) (below : List Text) :
    restore (unwound r top below) = OnePass.written (plain top) (below.map plain) ++ restore r := by
  induction below generalizing r top with
  | nil => simp [unwound, OnePass.written, plain]
  | cons outer below ih =>
    rw [unwound, ih, restore_cons_of_notMem (by decide), restore_append, List.map_cons]
    simp only [OnePass.written, List.foldl_cons]
    have := OnePass.written_append (plain outer) ('{' :: plain top) (below.map plain)
    simp only [OnePass.written] at this
    rw [this, List.append_assoc]
    rfl

theorem restore_replacement (contents : Text) (a : Answer) :
    (replacement contents a).map restore = OnePass.replacement restore (restore contents) a := by
  have hbraced : restore (Marker.braced contents) = Marker.braced (restore contents) := by
    unfold Marker.braced
    rw [List.cons_append, restore_cons_of_notMem (by decide), restore_append]
    rfl
  cases a <;> simp only [replacement, OnePass.replacement, Except.map, restore_shield, hbraced]

/-- The single pass puts in the place of a marker what the sweep does, restored. -/
theorem dispatch_bind_replacement (reg : Registry (Action σ)) (contents : Text) (st : σ) :
    (dispatch reg contents st).1 >>= OnePass.replacement restore (restore contents) =
      (substitute reg contents st).1.map restore := by
  unfold substitute
  rcases dispatch reg contents st with ⟨stop | a, st'⟩
  · rfl
  · exact (restore_replacement contents a).symm

/-- A run as a single pass would give it: with all stand-ins restored. -/
def reading (run : Run σ) : OnePass.Result σ where
  answer := match run.ending with
    | .reached _ text => .ok (restore text)
    | .aborted _ message => .error (.abort message)
    | .faulted cause => .error (.fault cause)
  state := run.state
  calls := run.visits.map fun v => (Call.ofText (restore v.contents), v.state)

variable {reg : Registry (Action σ)} {maxLength more : Nat} {top r : Text} {below : List Text} {st : σ}

theorem plain_cons {c : Char} (hc : c ∉ all) : plain (c :: top) = plain top ++ [c] := by
  rw [show c :: top = [c].reverse ++ top from rfl, plain_append, restore_cons_of_notMem hc]
  rfl

theorem plain_cons_hidden {c : Char} (hc : c ∈ escapable) :
    plain (hidden c :: top) = plain top ++ ['\\'] ++ [c] := by
  rw [show hidden c :: top = [hidden c].reverse ++ top from rfl, plain_append, restore_cons,
    meaning_hidden hc]
  simp

theorem evaluate_unmatched_eq_reading (hr : IsPlain r) :
    OnePass.evaluate restore reg (more + 1) false (plain top) [] ('}' :: r) st =
      reading ((course reg top [] ('}' :: scan r) st).within maxLength more) := by
  have hwithin : (course reg top [] ('}' :: scan r) st).within maxLength more =
      ⟨.reached .settled (unwound ('}' :: scan r) top []), st, []⟩ := by
    rw [course_unmatched]
    cases more <;> rfl
  rw [hwithin, OnePass.evaluate_unmatched]
  simp only [reading, restore_unwound, restore_cons_of_notMem (by decide : '}' ∉ all), restore_scan,
    restore_of_isPlain hr]
  rfl

theorem reply_restore (hnames : reg.NamesBare) (contents : Text) (st : σ) :
    OnePass.reply reg (Call.ofText (restore contents)) st = dispatch reg contents st := by
  have haction := Registry.action?_ofText_restore hnames contents
  unfold OnePass.reply dispatch
  cases h : reg.action? (Call.ofContents contents) with
  | none => simp only [haction, h]
  | some act => simp only [haction, h]

/-- At a closing brace both evaluate the same marker; they stay together if they do so
behind it. -/
theorem evaluate_close_eq_reading (hnames : reg.NamesBare) {outer : Text} (hr : IsPlain r)
    (hnext : ∀ {more top st},
      ((course reg top below (scan r) st).within maxLength more).ending.halt? ≠ some .tooLong →
      OnePass.evaluate restore reg (more + 1) false (plain top) (below.map plain) r st =
        reading ((course reg top below (scan r) st).within maxLength more))
    (hlength : ((course reg top (outer :: below) ('}' :: scan r) st).within maxLength more).ending.halt? ≠
      some .tooLong) :
    OnePass.evaluate restore reg (more + 1) false (plain top) (plain outer :: below.map plain) ('}' :: r) st =
      reading ((course reg top (outer :: below) ('}' :: scan r) st).within maxLength more) := by
  have hreply : OnePass.reply reg (Call.ofText (plain top)) st = dispatch reg top.reverse st :=
    reply_restore hnames top.reverse st
  have hstate : (OnePass.reply reg (Call.ofText (plain top)) st).2 = (substitute reg top.reverse st).2 :=
    congrArg Prod.snd hreply
  have hread : (OnePass.reply reg (Call.ofText (plain top)) st).1 >>= OnePass.replacement restore (plain top) =
      (substitute reg top.reverse st).1.map restore := by
    rw [hreply]
    exact dispatch_bind_replacement reg top.reverse st
  rcases hd : substitute reg top.reverse st with ⟨stop | new, st'⟩
  · rw [hd] at hstate hread
    rw [OnePass.evaluate_stop _ _ _ _ hread, course_stop _ _ _ hd, hstate]
    cases more <;> cases stop <;> rfl
  · rw [hd] at hstate hread
    rw [course_answer _ _ _ hd] at hlength ⊢
    rw [OnePass.evaluate_answer _ _ _ _ hread, hstate, ← plain_append]
    cases more with
    | zero =>
      rw [OnePass.evaluate_zero]
      simp only [reading, Course.within, restore_unwound, restore_scan, restore_of_isPlain hr]
      rfl
    | succ more =>
      simp only [Course.within] at hlength ⊢
      split_ifs at hlength ⊢
      · exact absurd rfl hlength
      · simp only [hnext hlength]
        rfl

/-- The single pass and the sweep go together, character by character. An escape is
two characters for the one and a single character for the other. -/
theorem evaluate_eq_reading (hnames : reg.NamesBare) {e : Bool} (hr : IsPlain r)
    (he : e = true → ∀ c ∈ r.head?, c ≠ '{' ∧ c ≠ '}')
    (hlength : ((course reg top below (scan r) st).within maxLength more).ending.halt? ≠ some .tooLong) :
    OnePass.evaluate restore reg (more + 1) e (plain top) (below.map plain) r st =
      reading ((course reg top below (scan r) st).within maxLength more) := by
  induction r using scan_induction generalizing more e top below st with
  | nil =>
    have hwithin : (course reg top below (scan []) st).within maxLength more =
        ⟨.reached .settled (unwound [] top below), st, []⟩ := by
      rw [scan, course_nil]
      cases more <;> rfl
    simp [hwithin, reading, restore_unwound, OnePass.evaluate]
  | escape c r hc ih =>
    rw [scan_escape hc, course_char _ _ _ _ _ (hidden_ne hc).1 (hidden_ne hc).2] at hlength ⊢
    rw [OnePass.evaluate_char _ _ _ _ _ _ _ (Or.inr (by decide)),
      OnePass.evaluate_char _ _ _ _ _ _ _ (Or.inl (by decide)), ← plain_cons_hidden hc, ih _ _ hlength]
    · exact fun x hx => hr x (by simp [hx])
    · simp [ne_backslash hc]
  | char c r hc ih =>
    have hr' : IsPlain r := fun x hx => hr x (List.mem_cons_of_mem _ hx)
    have hnext {more top below st} := @ih more top below st false hr' (fun h => absurd h Bool.false_ne_true)
    rw [scan_cons hc] at hlength ⊢
    by_cases hbrace : c = '{' ∨ c = '}'
    · have : e = false := by
        cases e with
        | false => rfl
        | true => exact absurd hbrace (not_or.2 (he rfl c rfl))
      subst this
      rcases hbrace with rfl | rfl
      · rw [course_open] at hlength ⊢
        rw [OnePass.evaluate_open]
        exact hnext hlength
      · cases below with
        | nil => exact evaluate_unmatched_eq_reading hr'
        | cons outer below => exact evaluate_close_eq_reading hnames hr' hnext hlength
    · obtain ⟨hopen, hclose⟩ := not_or.1 hbrace
      rw [course_char _ _ _ _ _ hopen hclose] at hlength ⊢
      rw [OnePass.evaluate_char _ _ _ _ _ _ _ (Or.inr ⟨hopen, hclose⟩), ← plain_cons (hr c (by simp))]
      refine ih hr' ?_ hlength
      intro hslash x hx
      exact ne_of_notMem_escapable fun hmem => hc ⟨by simpa using hslash, x, hx, hmem⟩

end Expansion

namespace OnePass

/-- An expansion and a single pass come to the same: the answer, the state that is
left, the markers as they read, and the calls that methods answer. -/
structure Agrees (reg : Registry (Action σ)) (out : Outcome σ)
    (pass : Except Fault Text × Result σ) : Prop where
  answer : out.answer = pass.1
  state : out.state = pass.2.state
  markers : (out.visits.map fun v => (Call.ofText (StandIn.restore v.contents), v.state)) = pass.2.calls
  calls : reg.answered out.calls = reg.answered pass.2.calls

theorem answered_markers {reg : Registry (Action σ)} (hnames : reg.NamesBare) (visits : List (Visit σ)) :
    reg.answered (visits.map fun v => (Call.ofContents v.contents, v.state)) =
      reg.answered (visits.map fun v => (Call.ofText (StandIn.restore v.contents), v.state)) := by
  unfold Registry.answered
  induction visits with
  | nil => rfl
  | cons v visits ih =>
    simp only [List.map_cons, List.filter_cons, Registry.action?_ofText_restore hnames, ih]
    split_ifs with h
    · rw [Registry.ofText_restore_of_answered hnames h]
    · rfl

theorem evaluate_eq_run {reg : Registry (Action σ)} (hnames : reg.NamesBare) {limits : Limits} {input : Text}
    (hinput : StandIn.IsPlain input) {st : σ}
    (hlength : (Expansion.run reg limits input st).ending.halt? ≠ some .tooLong) :
    evaluate StandIn.restore reg limits.iterations.value false [] [] input st =
      Expansion.reading (Expansion.run reg limits input st) := by
  rw [Expansion.run_eq_within, StandIn.hide_eq_scan] at hlength ⊢
  split_ifs at hlength ⊢
  · exact absurd rfl hlength
  · obtain ⟨more, hmore⟩ := Nat.exists_eq_succ_of_ne_zero limits.iterations.positive.ne'
    rw [hmore, Nat.succ_sub_one] at hlength ⊢
    exact Expansion.evaluate_eq_reading hnames hinput (fun h => absurd h Bool.false_ne_true) hlength

/-- Expansion by passes and a single pass with a stack agree on every input without
stand-ins, if each registered name stands for itself only and the length of the
text does not stop the passes. The single pass restores the stand-ins in what
methods answer; if there are none it takes the answers as they are. -/
theorem expand_agrees {reg : Registry (Action σ)} (hnames : reg.NamesBare) {limits : Limits} {input : Text}
    (hinput : StandIn.IsPlain input) {st : σ}
    (hlength : (Expansion.run reg limits input st).ending.halt? ≠ some .tooLong) :
    Agrees reg (TagExpander.expand reg limits input st) (expand StandIn.restore reg limits input st) ∧
      (reg.AnswersPlain (TagExpander.expand reg limits input st).visits →
        Agrees reg (TagExpander.expand reg limits input st) (expand id reg limits input st)) := by
  have hrun := evaluate_eq_run hnames hinput hlength
  have hagrees : Agrees reg (TagExpander.expand reg limits input st)
      (expand StandIn.restore reg limits input st) := by
    unfold expand TagExpander.expand
    rw [hrun]
    generalize Expansion.run reg limits input st = run
    obtain ⟨ending, state, visits⟩ := run
    cases ending with
    | reached halt text =>
      exact ⟨congrArg Except.ok (fst_cut _ _), rfl, rfl, answered_markers hnames visits⟩
    | aborted contents message => exact ⟨rfl, rfl, rfl, answered_markers hnames visits⟩
    | faulted cause => exact ⟨rfl, rfl, rfl, answered_markers hnames visits⟩
  refine ⟨hagrees, fun hanswers => ?_⟩
  have hread : expand id reg limits input st = expand StandIn.restore reg limits input st := by
    unfold expand
    rw [← evaluate_congr]
    rw [hrun]
    intro c hc a ha t ht
    obtain ⟨visit, hvisit, rfl⟩ := List.mem_map.1 hc
    rw [Expansion.reply_restore hnames] at ha
    exact StandIn.restore_of_isPlain (hanswers visit hvisit a ha t ht)
  rw [hread]
  exact hagrees

/-- A marker in another one, a bar behind a backslash, an unknown name and an open brace. -/
theorem expand_agrees_sample :
    let limits : Limits := ⟨Limit.count 3, Limit.count 100, Limit.count 50⟩
    let input := "\x7bu:\\\x7b\x7bn\x7d\x7d|\x7bx\\|\x7d\x7bn".toList
    let out := TagExpander.expand Expansion.sample limits input 0
    Agrees Expansion.sample out (expand StandIn.restore Expansion.sample limits input 0) ∧
      Agrees Expansion.sample out (expand id Expansion.sample limits input 0) := by
  intro limits input out
  have hnames : Expansion.sample.NamesBare := by decide
  have hinput : StandIn.IsPlain input := by decide
  have hlength : (Expansion.run Expansion.sample limits input 0).ending.halt? ≠ some .tooLong := by decide
  have hanswers : Expansion.sample.AnswersPlain out.visits := by decide
  exact ⟨(expand_agrees hnames hinput hlength).1, (expand_agrees hnames hinput hlength).2 hanswers⟩

end OnePass

end TagExpander
