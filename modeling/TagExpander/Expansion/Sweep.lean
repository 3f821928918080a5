import TagExpander.Expansion.Pass

/-! A sweep comes to what the passes come to, but walks over the text once: after an
answer it goes on behind it, with the markers that are still open. -/

namespace TagExpander.Expansion

variable {σ : Type}

/-- The text in front of which `rest` is still to be walked over. What follows the
last opening brace is `top`, what is between the braces before it is `below`, and
all of it is kept backwards. -/
def unwound (rest top : Text) : List Text → Text
  | [] => top.reverse ++ rest
  | outer :: below => unwound ('{' :: (top.reverse ++ rest)) outer below

/-- Sweeps over the rest of a text. After the next answer there may be `more`. -/
def sweep (reg : Registry (Action σ)) (maxLength : Nat) :
    Nat → Nat → Text → List Text → Text → σ → Run σ
  | _, _, top, below, [], st => ⟨.reached .settled (unwound [] top below), st, []⟩
  | more, length, top, below, c :: r, st =>
    if c = '{' then sweep reg maxLength more length [] (top :: below) r st
    else if c = '}' then
      match below with
      | [] => ⟨.reached .settled (unwound (c :: r) top []), st, []⟩
      | outer :: below =>
        let visit : Visit σ := ⟨top.reverse, r, length, st⟩
        match substitute reg top.reverse st with
        | (.error stop, st') => ⟨Ending.ofStop visit.contents stop, st', [visit]⟩
        | (.ok new, st') =>
          let top' := new.reverse ++ outer
          let length' := length - (top.length + 2) + new.length
          Run.cons visit <| match more with
            | 0 => ⟨.reached .outOfIterations (unwound r top' below), st', []⟩
            | more + 1 =>
              if maxLength < length' then ⟨.reached .tooLong (unwound r top' below), st', []⟩
              else sweep reg maxLength more length' top' below r st'
    else sweep reg maxLength more length (c :: top) below r st

/-- Sweeps over a whole text, with as many answers as are left. -/
def sweepAll (reg : Registry (Action σ)) (maxLength : Nat) : Nat → Text → σ → Run σ
  | _, [], st => ⟨.reached .settled [], st, []⟩
  | 0, text, st => ⟨.reached .outOfIterations text, st, []⟩
  | more + 1, text, st =>
    if maxLength < text.length then ⟨.reached .tooLong text, st, []⟩
    else sweep reg maxLength more text.length [] [] text st

theorem unwound_eq_append (rest top : Text) (below : List Text) :
    unwound rest top below = unwound [] top below ++ rest := by
  induction below generalizing rest top with
  | nil => simp [unwound]
  | cons outer below ih =>
    rw [unwound, ih, unwound, ih ('{' :: (top.reverse ++ []))]
    simp

/-- What was put behind `top` stands in front of the rest. -/
theorem unwound_reverse_append (a rest top : Text) (below : List Text) :
    unwound rest (a.reverse ++ top) below = unwound (a ++ rest) top below := by
  cases below <;> simp [unwound]

/-- What a marker is replaced by neither opens nor closes another one. -/
theorem notMem_substitute {reg : Registry (Action σ)} {contents new : Text} {st st' : σ}
    (h : substitute reg contents st = (.ok new, st')) : '{' ∉ new ∧ '}' ∉ new := by
  obtain ⟨a, -, ha⟩ := substitute_eq_ok_iff.1 h
  cases a with
  | unwritable cause => cases ha
  | _ =>
    cases ha
    exact ⟨StandIn.open_notMem_shield _, StandIn.close_notMem_shield _⟩

/-- No brace is left between the braces that are open. -/
def NoBraces (top : Text) (below : List Text) : Prop :=
  ∀ s ∈ top :: below, '{' ∉ s ∧ '}' ∉ s

theorem close_notMem_unwound {top : Text} {below : List Text} (h : NoBraces top below) :
    '}' ∉ unwound [] top below := by
  induction below generalizing top with
  | nil => simpa [unwound] using (h top (by simp)).2
  | cons outer below ih =>
    rw [unwound, unwound_eq_append]
    have ho : '}' ∉ unwound [] outer below := ih fun s hs => h s (List.mem_cons_of_mem _ hs)
    simpa using ⟨ho, (h top (by simp)).2⟩

theorem sweep_eq_passes (reg : Registry (Action σ)) (maxLength : Nat) {more length : Nat}
    {top rest last : Text} {below : List Text} {st : σ} (hbraces : NoBraces top below)
    (hlength : (unwound rest top below).length = length) (hmax : length ≤ maxLength)
    (hlast : unwound rest top below ≠ last) :
    sweep reg maxLength more length top below rest st =
      passes reg maxLength (more + 1) last (unwound rest top below) st := by
  induction rest generalizing more length top below last st with
  | nil =>
    have hfirst := Marker.first?_of_notMem (close_notMem_unwound hbraces)
    simp only [sweep, passes, hlast, hlength, Nat.not_lt.2 hmax, if_false, pass, hfirst]
    cases more <;> simp [passes]
  | cons c r ih =>
    unfold sweep
    split
    · next hc =>
      subst hc
      have hb : NoBraces [] (top :: below) := by
        intro s hs
        rcases List.mem_cons.1 hs with rfl | hs
        · simp
        · exact hbraces s hs
      have he : unwound r [] (top :: below) = unwound ('{' :: r) top below := by simp [unwound]
      rw [← he] at hlength hlast ⊢
      exact ih hb hlength hmax hlast
    · next hopen =>
      split
      · next hc =>
        subst hc
        have htop := hbraces top (by simp)
        match below with
        | [] =>
          have hfirst : Marker.first? (unwound ('}' :: r) top []) = none :=
            Marker.first?_append_close (by simpa using htop.2) (by simpa using htop.1) r
          simp only [passes, hlast, hlength, Nat.not_lt.2 hmax, if_false, pass, hfirst]
          cases more <;> simp [passes]
        | outer :: below =>
          have hb : NoBraces outer below := fun s hs => hbraces s (List.mem_cons_of_mem _ hs)
          have hfirst : Marker.first? (unwound ('}' :: r) top (outer :: below)) =
              some ⟨unwound [] outer below, top.reverse, r⟩ :=
            Marker.first?_eq_some_iff.2 ⟨by
              rw [unwound, unwound_eq_append ('{' :: _)]
              simp [Marker.whole], close_notMem_unwound hb, by simpa using htop.1, by simpa using htop.2⟩
          simp only [passes, hlast, hlength, Nat.not_lt.2 hmax, if_false, pass, hfirst]
          rcases hsubst : substitute reg top.reverse st with ⟨_ | new, st'⟩
          · rfl
          · have hnew := notMem_substitute hsubst
            have htext : unwound r (new.reverse ++ outer) below =
                unwound [] outer below ++ (new ++ r) := by
              rw [unwound_reverse_append, unwound_eq_append (new ++ r)]
            have hwhole : unwound ('}' :: r) top (outer :: below) =
                unwound [] outer below ++ '{' :: (top.reverse ++ '}' :: r) := by
              rw [unwound, unwound_eq_append ('{' :: _)]
            have hlength' : length - (top.length + 2) + new.length =
                (unwound r (new.reverse ++ outer) below).length := by
              rw [← hlength, hwhole, htext]
              simp only [List.length_append, List.length_cons, List.length_reverse]
              omega
            have hchange : unwound r (new.reverse ++ outer) below ≠
                unwound ('}' :: r) top (outer :: below) := by
              intro h
              have hcount := congrArg (List.count '}') (htext.symm.trans (h.trans hwhole))
              simp [List.count_append, List.count_eq_zero.2 hnew.2, List.count_eq_zero.2 htop.2] at hcount
            have hnext : NoBraces (new.reverse ++ outer) below := by
              intro s hs
              rcases List.mem_cons.1 hs with rfl | hs
              · have ho := hb outer (by simp)
                simpa using ⟨⟨hnew.1, ho.1⟩, hnew.2, ho.2⟩
              · exact hb s (List.mem_cons_of_mem _ hs)
            refine congrArg (Run.cons _) ?_
            simp only [← htext]
            cases more with
            | zero => simp [passes, hchange]
            | succ more =>
              by_cases hlong : maxLength < (unwound r (new.reverse ++ outer) below).length
              · simp [passes, hchange, hlength', hlong]
              · simp only [hlength', hlong, if_false]
                exact ih hnext rfl (Nat.not_lt.1 hlong) hchange
      · next hclose =>
        have hb : NoBraces (c :: top) below := by
          intro s hs
          rcases List.mem_cons.1 hs with rfl | hs
          · have htop := hbraces top (by simp)
            exact ⟨by simpa [eq_comm] using ⟨hopen, htop.1⟩, by simpa [eq_comm] using ⟨hclose, htop.2⟩⟩
          · exact hbraces s (List.mem_cons_of_mem _ hs)
        have he : unwound r (c :: top) below = unwound (c :: r) top below :=
          unwound_reverse_append [c] r top below
        rw [← he] at hlength hlast ⊢
        exact ih hb hlength hmax hlast

theorem sweepAll_eq_passes (reg : Registry (Action σ)) (maxLength n : Nat) (text : Text) (st : σ) :
    sweepAll reg maxLength n text st = passes reg maxLength n [] text st := by
  cases text with
  | nil => cases n <;> simp [sweepAll, passes]
  | cons c r =>
    cases n with
    | zero => simp [sweepAll, passes]
    | succ more =>
      by_cases hlong : maxLength < (c :: r).length
      · simp only [sweepAll, passes, hlong, if_true, reduceCtorEq, if_false]
      · simp only [sweepAll, hlong, if_false]
        exact sweep_eq_passes reg maxLength (by simp [NoBraces]) rfl (Nat.not_lt.1 hlong) (by simp [unwound])

end TagExpander.Expansion
