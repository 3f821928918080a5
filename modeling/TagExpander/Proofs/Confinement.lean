import TagExpander.Proofs.Locality
import TagExpander.Proofs.Names
import TagExpander.Proofs.Reporting
import TagExpander.Proofs.Splitting
import TagExpander.Proofs.Writable

/-! What an expansion is confined to. Every marker is evaluated in a text within the
limit of length, so what its method gets is short and clean, whatever earlier methods
answered. A method that stops ends the expansion where it is called, and else the answer
is a clean text within the limit of the output. -/

namespace TagExpander

variable {σ : Type}

namespace StandIn

theorem length_meaning_le (c : Char) : (meaning c).length ≤ 2 := by
  unfold meaning
  cases escape? c <;> simp

theorem length_restore_le (s : Text) : (restore s).length ≤ 2 * s.length := by
  induction s with
  | nil => rfl
  | cons c r ih =>
    have hc := length_meaning_le c
    rw [restore_cons, List.length_append, List.length_cons]
    omega

theorem IsPlain.mono {s t : Text} (hs : IsPlain s) (h : t ⊆ s) : IsPlain t :=
  fun c hc => hs c (h hc)

end StandIn

theorem Text.trim_infix (s : Text) : trim s <:+: s := by
  obtain ⟨l, r, hs, -⟩ := exists_trim s
  exact ⟨l, r, hs.symm⟩

theorem Text.trim_trim (s : Text) : trim (trim s) = trim s := by
  obtain ⟨l, r, -, -, -, hhead, hlast⟩ := exists_trim s
  exact (stripBy_eq_self_iff isBlank _).2 ⟨hhead, hlast⟩

/-- A name as it is looked up. -/
structure Text.IsName (name : Text) : Prop where
  noOpen : '{' ∉ name
  noClose : '}' ∉ name
  noColon : ':' ∉ name
  trimmed : name.trim = name

/-- A text that a method is given: it holds no stand-in and is not longer than this. -/
structure Text.IsClean (bound : Nat) (s : Text) : Prop where
  plain : StandIn.IsPlain s
  short : s.length ≤ bound

theorem Text.IsClean.infix {bound : Nat} {s t : Text} (hs : s.IsClean bound) (h : t <:+: s) : t.IsClean bound :=
  ⟨hs.plain.mono h.subset, h.length_le.trans hs.short⟩

namespace Call

theorem exists_name (contents : Text) : ∃ before : Text, before ⊆ contents ∧ ':' ∉ before ∧
    (ofContents contents).name = before.trim := by
  rw [ofContents, ofText]
  split
  · next h => exact ⟨contents, fun _ hc => hc, Text.cut?_eq_none_iff.1 h, rfl⟩
  · next before params h =>
    obtain ⟨rfl, hcolon⟩ := Text.cut?_eq_some_iff.1 h
    exact ⟨before, List.subset_append_left _ _, hcolon, rfl⟩

theorem isName_ofContents {contents : Text} (ho : '{' ∉ contents) (hc : '}' ∉ contents) :
    (ofContents contents).name.IsName := by
  obtain ⟨before, hsub, hcolon, hname⟩ := exists_name contents
  have hmem : before.trim ⊆ before := (Text.trim_infix before).subset
  rw [hname]
  exact ⟨fun h => ho (hsub (hmem h)), fun h => hc (hsub (hmem h)), fun h => hcolon (hmem h), Text.trim_trim _⟩

theorem isClean_params {contents params : Text} (h : (ofContents contents).params = some params) :
    params.IsClean (2 * contents.length) := by
  rw [ofContents, ofText] at h
  split at h
  · cases h
  · next before rest hcut =>
    obtain ⟨rfl, -⟩ := Text.cut?_eq_some_iff.1 hcut
    obtain rfl : StandIn.restore rest = params := Option.some.inj h
    have hlength := StandIn.length_restore_le rest
    refine ⟨StandIn.isPlain_restore rest, ?_⟩
    simp only [List.length_append, List.length_cons]
    omega

end Call

def Expansion.Pass.visit? : Expansion.Pass σ → Option (Visit σ)
  | .idle => none
  | .rewrote visit _ _ => some visit
  | .stopped visit _ _ => some visit

/-- A marker is evaluated by a pass over a text within the limit. The method of its name is
asked, with parameters that are clean as a whole and in parts. -/
structure Visit.Confined (reg : Registry (Action σ)) (maxLength : Nat) (v : Visit σ) : Prop where
  visited : ∃ text, text.length ≤ maxLength ∧ (Expansion.pass reg text v.state).visit? = some v
  asked : Expansion.dispatch reg v.contents v.state = OnePass.reply reg (Call.ofContents v.contents) v.state
  name : (Call.ofContents v.contents).name.IsName
  params : ∀ params, (Call.ofContents v.contents).params = some params →
    params.IsClean (2 * maxLength) ∧ ∀ part ∈ Params.split params, part.IsClean (2 * maxLength)

theorem Expansion.visit?_pass {reg : Registry (Action σ)} {text : Text} {st : σ} {v : Visit σ}
    (h : (pass reg text st).visit? = some v) :
    ∃ m, Marker.first? text = some m ∧ v = ⟨m.contents, m.after, text.length, st⟩ := by
  cases hp : pass reg text st with
  | idle =>
    rw [hp] at h
    cases h
  | rewrote visit text' st' =>
    rw [hp] at h
    cases h
    obtain ⟨m, _, hm, hv, -, -⟩ := pass_rewrote hp
    exact ⟨m, hm, hv⟩
  | stopped visit stop st' =>
    rw [hp] at h
    cases h
    obtain ⟨m, hm, hv, -⟩ := pass_stopped hp
    exact ⟨m, hm, hv⟩

theorem Visit.confined_of_pass {reg : Registry (Action σ)} {maxLength : Nat} {text : Text} {st : σ} {v : Visit σ}
    (h : (Expansion.pass reg text st).visit? = some v) (hlength : text.length ≤ maxLength) :
    v.Confined reg maxLength := by
  obtain ⟨m, hm, rfl⟩ := Expansion.visit?_pass h
  obtain ⟨rfl, -, ho, hc⟩ := Marker.first?_eq_some_iff.1 hm
  have hcontents : m.contents.length ≤ maxLength := by
    simp only [Marker.whole, List.length_append, List.length_cons] at hlength
    omega
  refine ⟨⟨_, hlength, h⟩, rfl, Call.isName_ofContents ho hc, fun params hparams => ?_⟩
  have hclean : params.IsClean (2 * maxLength) :=
    have h := Call.isClean_params hparams
    ⟨h.plain, h.short.trans (Nat.mul_le_mul_left 2 hcontents)⟩
  exact ⟨hclean, fun part hpart => hclean.infix (Params.infix_of_mem_split hpart)⟩

/-- What an expansion answers that a method stops. -/
def Stop.answer : Stop → Except Fault Text
  | .abort message => .ok message
  | .fault cause => .error cause

namespace Expansion

variable {reg : Registry (Action σ)}

theorem Rounds.confined {maxLength more : Nat} {text : Text} {st : σ} {run : Run σ}
    (h : Rounds reg maxLength more text st run) (hlength : text.length ≤ maxLength) :
    run.visits.length ≤ more + 1 ∧ ∀ v ∈ run.visits, v.Confined reg maxLength := by
  induction h with
  | settled h => simp
  | stopped h => simpa using Visit.confined_of_pass (by rw [h]; rfl) hlength
  | outOfIterations h => simpa using Visit.confined_of_pass (by rw [h]; rfl) hlength
  | tooLong h _ => simpa using Visit.confined_of_pass (by rw [h]; rfl) hlength
  | next h hshort _ ih =>
    obtain ⟨hcount, hvisits⟩ := ih hshort
    refine ⟨Nat.succ_le_succ hcount, List.forall_mem_cons.2 ⟨?_, hvisits⟩⟩
    exact Visit.confined_of_pass (by rw [h]; rfl) hlength

theorem run_confined (reg : Registry (Action σ)) (limits : Limits) (input : Text) (st : σ) :
    (run reg limits input st).visits.length ≤ limits.iterations.value ∧
      ∀ v ∈ (run reg limits input st).visits, v.Confined reg limits.maxLength.value := by
  obtain ⟨-, hrun⟩ | ⟨hshort, hrounds⟩ := run_rounds reg limits input st
  · rw [hrun]
    simp
  · have h := hrounds.confined hshort
    rwa [Nat.sub_add_cancel limits.iterations.positive] at h

/-- Each marker was replaced: its method was asked and answered, and the answer has a
text. -/
def AllReplaced (reg : Registry (Action σ)) (visits : List (Visit σ)) : Prop :=
  ∀ v ∈ visits, ∃ new, (substitute reg v.contents v.state).1 = .ok new

/-- All markers were replaced, or the last one was not, and its method has left the state. -/
theorem EndsBy.replaced_or_last {ending : Ending} {visits : List (Visit σ)} {st left : σ}
    (h : EndsBy reg ending visits) (hchained : Chained reg left st visits) :
    ((∃ halt text, ending = .reached halt text) ∧ AllReplaced reg visits) ∨
      ∃ earlier v stop, visits = earlier ++ [v] ∧ AllReplaced reg earlier ∧
        substitute reg v.contents v.state = (.error stop, left) ∧ ending = .ofStop v.contents stop := by
  induction visits generalizing st with
  | nil => exact Or.inl ⟨h, by simp [AllReplaced]⟩
  | cons u visits ih =>
    obtain ⟨rfl, hchained⟩ := hchained
    have hstate : (dispatch reg u.contents u.state).2 = (substitute reg u.contents u.state).2 := rfl
    rw [EndsBy] at h
    rw [hstate] at hchained
    rcases hu : substitute reg u.contents u.state with ⟨stop | new, st'⟩ <;> rw [hu] at h hchained
    · obtain ⟨rfl, hending⟩ := h
      obtain rfl : left = st' := hchained
      exact Or.inr ⟨[], u, stop, rfl, by simp [AllReplaced], hu, hending⟩
    · have hfirst : ∃ new, (substitute reg u.contents u.state).1 = .ok new := ⟨new, by rw [hu]⟩
      obtain ⟨hreached, hall⟩ | ⟨earlier, v, stop, rfl, hearlier, hstop⟩ := ih h hchained
      · exact Or.inl ⟨hreached, List.forall_mem_cons.2 ⟨hfirst, hall⟩⟩
      · exact Or.inr ⟨u :: earlier, v, stop, rfl, List.forall_mem_cons.2 ⟨hfirst, hearlier⟩, hstop⟩

theorem answer_of_stop {limits : Limits} {input contents : Text} {st : σ} {stop : Stop}
    (h : (run reg limits input st).ending = .ofStop contents stop) :
    (expand reg limits input st).answer = stop.answer := by
  rw [expand, h]
  cases stop <;> rfl

end Expansion

theorem Expansion.run_of_first {reg : Registry (Action σ)} {limits : Limits} {input : Text} {st st' : σ}
    {m : Marker} {stop : Stop} (hshort : (StandIn.hide input).length ≤ limits.maxLength.value)
    (hm : Marker.first? (StandIn.hide input) = some m)
    (hstop : substitute reg m.contents st = (.error stop, st')) :
    run reg limits input st =
      ⟨.ofStop m.contents stop, st', [⟨m.contents, m.after, (StandIn.hide input).length, st⟩]⟩ := by
  have hpass : pass reg (StandIn.hide input) st =
      .stopped ⟨m.contents, m.after, (StandIn.hide input).length, st⟩ stop st' := by
    simp only [pass, hm, hstop]
  obtain ⟨hlong, -⟩ | ⟨-, hrounds⟩ := run_rounds reg limits input st
  · exact absurd hlong (Nat.not_lt.2 hshort)
  · generalize run reg limits input st = out, limits.iterations.value - 1 = more at hrounds
    cases hrounds with
    | stopped h =>
      cases hpass.symm.trans h
      rfl
    | settled h => cases hpass.symm.trans h
    | outOfIterations h => cases hpass.symm.trans h
    | tooLong h => cases hpass.symm.trans h
    | next h => cases hpass.symm.trans h

theorem Expansion.expand_of_first {reg : Registry (Action σ)} {limits : Limits} {input : Text} {st st' : σ}
    {m : Marker} {stop : Stop} (hshort : (StandIn.hide input).length ≤ limits.maxLength.value)
    (hm : Marker.first? (StandIn.hide input) = some m)
    (hstop : substitute reg m.contents st = (.error stop, st')) :
    (expand reg limits input st).answer = stop.answer ∧
      (expand reg limits input st).visits = [⟨m.contents, m.after, (StandIn.hide input).length, st⟩] := by
  rw [expand, run_of_first hshort hm hstop]
  cases stop <;> exact ⟨rfl, rfl⟩

/-- How an expansion ends: with a clean text within the limit of the output, or at a marker
whose method stopped or answered something that has no text. The message of an abort is the
answer as it is, and a fault leaves the expansion. -/
inductive Outcome.Closed (reg : Registry (Action σ)) (maxOutput : Nat) (out : Outcome σ) : Prop
  | shown {shown : Text} (hall : Expansion.AllReplaced reg out.visits) (hanswer : out.answer = .ok shown)
      (hclean : shown.IsClean maxOutput)
  | raised {earlier : List (Visit σ)} {v : Visit σ} {stop : Stop} (hlast : out.visits = earlier ++ [v])
      (hall : Expansion.AllReplaced reg earlier)
      (hraised : Expansion.dispatch reg v.contents v.state = (.error stop, out.state))
      (hanswer : out.answer = stop.answer)
  | unwritten {earlier : List (Visit σ)} {v : Visit σ} {cause : Fault} (hlast : out.visits = earlier ++ [v])
      (hall : Expansion.AllReplaced reg earlier)
      (hunwritten : Expansion.dispatch reg v.contents v.state = (.ok (.unwritable cause), out.state))
      (hanswer : out.answer = .error cause)

/-- No more markers are evaluated than the limit allows, each of them in a text within its
limit and with clean parameters, and nothing but their methods changes the state. -/
structure Outcome.Confined (reg : Registry (Action σ)) (limits : Limits) (st : σ) (out : Outcome σ) : Prop where
  called : (reg.answered out.calls).length ≤ out.visits.length
  evaluated : out.visits.length ≤ limits.iterations.value
  visits : ∀ v ∈ out.visits, v.Confined reg limits.maxLength.value
  chained : Expansion.Chained reg out.state st out.visits
  closed : out.Closed reg limits.maxOutput.value

namespace Expansion

theorem expand_closed (reg : Registry (Action σ)) (limits : Limits) (input : Text) (st : σ) :
    (expand reg limits input st).Closed reg limits.maxOutput.value := by
  obtain ⟨⟨halt, text, hending⟩, hall⟩ | ⟨earlier, v, stop, hlast, hearlier, hstop, hending⟩ :=
    (run_endsBy reg limits input st).replaced_or_last (run_chained reg limits input st)
  · refine .shown hall (answer_of_reached hending) ⟨?_, List.length_take_le _ _⟩
    exact (StandIn.isPlain_restore text).mono (List.take_subset _ _)
  · have hanswer := answer_of_stop hending
    obtain hraised | ⟨cause, hunwritten, rfl⟩ := substitute_eq_error_iff.1 hstop
    · exact .raised hlast hearlier hraised hanswer
    · exact .unwritten hlast hearlier hunwritten hanswer

end Expansion

theorem Stop.eq_fault_of_answer {stop : Stop} {cause : Fault} (h : stop.answer = .error cause) :
    stop = .fault cause := by
  cases stop <;> cases h
  rfl

namespace Parser

theorem exists_act_of_dispatch {p : Parser} {server : Server} {contents : Text} {w w' : World}
    {reply : Except Stop Answer} (h : Expansion.dispatch (p.actions server) contents w = (reply, w'))
    (hreply : reply ≠ .ok .nothing) :
    ∃ handler, p.registry.action? (Call.ofContents contents) = some handler ∧ (handler.act server w).1 = reply := by
  rw [Expansion.dispatch, actions, Registry.action?_map] at h
  cases hact : p.registry.action? (Call.ofContents contents) with
  | none =>
    rw [hact] at h
    cases h
    exact absurd rfl hreply
  | some handler =>
    rw [hact] at h
    exact ⟨handler, rfl, congrArg Prod.fst h⟩

/-- A fault that leaves an expansion comes from the handler that was called last, or from the
value that it answered with. -/
theorem exists_handler_of_fault {p : Parser} {depth : Nat} {s : Text} {w : World} {cause : Fault}
    (h : (p.expandWithin (depth + 1) s w).answer = .error cause) :
    let server : Server := ⟨roomFor (depth + 1), respond (p.expandWithin depth)⟩
    ∃ earlier v handler, (p.expandWithin (depth + 1) s w).visits = earlier ++ [v] ∧
      p.registry.action? (Call.ofContents v.contents) = some handler ∧
      ((handler.perform server v.state).1 = .error (.fault cause) ∨
        ∃ value, (handler.perform server v.state).1 = .ok value ∧
          value.answerIn server.room = .unwritable cause) := by
  intro server
  have hanswer : (TagExpander.expand (p.actions server) p.limits s w).answer = .error cause := h
  obtain ⟨-, hshown, -⟩ | ⟨hlast, -, hraised, hstop⟩ | ⟨hlast, -, hunwritten, hstop⟩ :=
    Expansion.expand_closed (p.actions server) p.limits s w
  · cases hshown.symm.trans hanswer
  · obtain rfl : _ = Stop.fault cause := Stop.eq_fault_of_answer (hstop.symm.trans hanswer)
    obtain ⟨handler, hact, hraised⟩ := exists_act_of_dispatch hraised nofun
    exact ⟨_, _, handler, hlast, hact, Or.inl (Procedure.act_eq_error_iff.1 hraised)⟩
  · cases hstop.symm.trans hanswer
    obtain ⟨handler, hact, hunwritten⟩ := exists_act_of_dispatch hunwritten nofun
    exact ⟨_, _, handler, hlast, hact, Or.inr (Procedure.act_eq_ok_iff.1 hunwritten)⟩

theorem fault_of_first {p : Parser} {s : Text} {w : World} {m : Marker} {handler : Handler} {cause : Fault}
    (hshort : (StandIn.hide s).length ≤ p.limits.maxLength.value) (hm : Marker.first? (StandIn.hide s) = some m)
    (hact : p.registry.action? (Call.ofContents m.contents) = some handler)
    (hfault : ∀ respond, (handler.perform ⟨Room.full, respond⟩ w).1 = .error (.fault cause)) :
    (p.expand s w).answer = .error cause ∧
      (p.expand s w).visits = [⟨m.contents, m.after, (StandIn.hide s).length, w⟩] := by
  set server : Server := ⟨Room.full, respond (p.expandWithin (maxDepth - 1))⟩
  have hraised : (handler.act server w).1 = .error (.fault cause) := Procedure.act_eq_error_iff.2 (hfault _)
  have hdispatch : Expansion.dispatch p.outermost m.contents w =
      (.error (.fault cause), (handler.act server w).2) := by
    rw [Expansion.dispatch, outermost, roomFor_maxDepth, actions, Registry.action?_map, hact]
    exact Prod.ext hraised rfl
  exact Expansion.expand_of_first hshort hm (Expansion.substitute_eq_error_iff.2 (Or.inl hdispatch))

end Parser

end TagExpander
