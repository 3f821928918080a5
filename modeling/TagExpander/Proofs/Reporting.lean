import TagExpander.Proofs.Limiting
import TagExpander.Proofs.Pairing
import TagExpander.Proofs.Rounds

/-! The records of an expansion tell how it ended. An abort leaves a single record. Else
the number of the markers evaluated and the length of the last text say whether a limit
halted the passes, and where no record speaks of a halt or an abort, nothing that could
be evaluated was left out. -/

namespace TagExpander

variable {σ : Type}

def Record.ofAbort : Record → Bool
  | .aborted _ _ => true
  | _ => false

namespace Expansion

open Brackets

variable {reg : Registry (Action σ)}

def Aborts (reg : Registry (Action σ)) (v : Visit σ) (message : Text) : Prop :=
  (dispatch reg v.contents v.state).1 = .error (.abort message)

/-- Only a method aborts: an answer without a text is a fault. -/
theorem aborts_iff {v : Visit σ} {message : Text} :
    Aborts reg v message ↔ (substitute reg v.contents v.state).1 = .error (.abort message) := by
  unfold Aborts substitute
  rcases (dispatch reg v.contents v.state).1 with stop | a
  · simp [bind, Except.bind]
  · cases a <;> simp [bind, Except.bind, replacement]

/-- All markers visited were replaced and the run reached a text, or it was stopped at the
last one. -/
def EndsBy (reg : Registry (Action σ)) (ending : Ending) : List (Visit σ) → Prop
  | [] => ∃ halt text, ending = .reached halt text
  | v :: visits =>
    match (substitute reg v.contents v.state).1 with
    | .ok _ => EndsBy reg ending visits
    | .error stop => visits = [] ∧ ending = .ofStop v.contents stop

namespace EndsBy

variable {ending : Ending} {v : Visit σ} {visits : List (Visit σ)}

theorem cons {new : Text} (h : (substitute reg v.contents v.state).1 = .ok new)
    (hrest : EndsBy reg ending visits) : EndsBy reg ending (v :: visits) := by
  rw [EndsBy, h]
  exact hrest

theorem last {stop : Stop} (h : (substitute reg v.contents v.state).1 = .error stop) :
    EndsBy reg (.ofStop v.contents stop) [v] := by
  rw [EndsBy, h]
  exact ⟨rfl, rfl⟩

theorem ending_of_stop (h : EndsBy reg ending visits) (hv : v ∈ visits) {stop : Stop}
    (hstop : (substitute reg v.contents v.state).1 = .error stop) : ending = .ofStop v.contents stop := by
  induction visits with
  | nil => exact absurd hv List.not_mem_nil
  | cons u visits ih =>
    rw [EndsBy] at h
    rcases hu : (substitute reg u.contents u.state).1 with stop' | new <;> rw [hu] at h
    · obtain ⟨rfl, rfl⟩ := h
      obtain rfl := List.mem_singleton.1 hv
      cases hu.symm.trans hstop
      rfl
    · rcases List.mem_cons.1 hv with rfl | hv
      · cases hu.symm.trans hstop
      · exact ih h hv

theorem reached_or_stopped (h : EndsBy reg ending visits) :
    (∃ halt text, ending = .reached halt text) ∨
      ∃ v ∈ visits, ∃ stop, (substitute reg v.contents v.state).1 = .error stop ∧
        ending = .ofStop v.contents stop := by
  induction visits with
  | nil => exact Or.inl h
  | cons u visits ih =>
    rw [EndsBy] at h
    rcases hu : (substitute reg u.contents u.state).1 with stop | new <;> rw [hu] at h
    · exact Or.inr ⟨u, List.mem_cons_self, stop, hu, h.2⟩
    · refine (ih h).imp_right ?_
      rintro ⟨v, hv, hstop⟩
      exact ⟨v, List.mem_cons_of_mem _ hv, hstop⟩

end EndsBy

theorem Rounds.endsBy {maxLength more : Nat} {text : Text} {st : σ} {run : Run σ}
    (h : Rounds reg maxLength more text st run) : EndsBy reg run.ending run.visits := by
  have hreplaced {text text' : Text} {st st' : σ} {visit : Visit σ}
      (h : pass reg text st = .rewrote visit text' st') :
      ∃ new, (substitute reg visit.contents visit.state).1 = .ok new := by
    obtain ⟨m, new, -, rfl, hd, -⟩ := pass_rewrote h
    exact ⟨new, by rw [hd]⟩
  induction h with
  | settled h => exact ⟨_, _, rfl⟩
  | stopped h =>
    obtain ⟨m, -, rfl, hd⟩ := pass_stopped h
    exact .last (by rw [hd])
  | outOfIterations h =>
    obtain ⟨new, hnew⟩ := hreplaced h
    exact .cons hnew ⟨_, _, rfl⟩
  | tooLong h _ =>
    obtain ⟨new, hnew⟩ := hreplaced h
    exact .cons hnew ⟨_, _, rfl⟩
  | next h _ _ ih =>
    obtain ⟨new, hnew⟩ := hreplaced h
    exact .cons hnew ih

/-- Why a run went no further than a text, by the markers that may be evaluated and that
were, and by the length of the text. -/
def haltBy (iterations maxLength visits length : Nat) : Halt :=
  if visits = iterations then .outOfIterations
  else if maxLength < length then .tooLong
  else .settled

theorem haltBy_succ (more maxLength visits length : Nat) :
    haltBy (more + 1) maxLength (visits + 1) length = haltBy more maxLength visits length := by
  simp [haltBy]

theorem Rounds.halt_eq {maxLength more : Nat} {text reached : Text} {st : σ} {run : Run σ} {halt : Halt}
    (h : Rounds reg maxLength more text st run) (hlength : text.length ≤ maxLength)
    (hending : run.ending = .reached halt reached) :
    halt = haltBy (more + 1) maxLength run.visits.length reached.length := by
  induction h with
  | settled h =>
    cases hending
    simp [haltBy, hlength]
  | stopped h =>
    rename_i stop _
    cases stop <;> cases hending
  | outOfIterations h =>
    cases hending
    rfl
  | tooLong h hlong =>
    cases hending
    simp [haltBy, hlong]
  | next h hshort _ ih =>
    rw [ih hshort hending]
    exact (haltBy_succ _ _ _ _).symm

theorem run_halt_eq {limits : Limits} {input text : Text} {st : σ} {halt : Halt}
    (h : (run reg limits input st).ending = .reached halt text) :
    halt = haltBy limits.iterations.value limits.maxLength.value
      (run reg limits input st).visits.length text.length := by
  have hpositive := limits.iterations.positive
  obtain ⟨hlong, hrun⟩ | ⟨hshort, hrounds⟩ := run_rounds reg limits input st
  · rw [hrun] at h ⊢
    cases h
    simp [haltBy, hpositive.ne, hlong]
  · have hhalt := hrounds.halt_eq hshort h
    rwa [Nat.sub_add_cancel hpositive] at hhalt

theorem run_endsBy (reg : Registry (Action σ)) (limits : Limits) (input : Text) (st : σ) :
    EndsBy reg (run reg limits input st).ending (run reg limits input st).visits := by
  obtain ⟨-, hrun⟩ | ⟨-, hrounds⟩ := run_rounds reg limits input st
  · rw [hrun]
    exact ⟨_, _, rfl⟩
  · exact hrounds.endsBy

theorem records_of_aborted {limits : Limits} {input contents message : Text} {st : σ}
    (h : (run reg limits input st).ending = .aborted contents message) :
    (expand reg limits input st).records = [.aborted contents message] := by
  rw [expand, h]
  rfl

theorem reached_or_aborted {limits : Limits} {input shown : Text} {st : σ}
    (hanswer : (expand reg limits input st).answer = .ok shown) :
    (∃ halt text, (run reg limits input st).ending = .reached halt text) ∨
      ∃ v ∈ (run reg limits input st).visits, ∃ message, Aborts reg v message ∧
        (run reg limits input st).ending = .aborted v.contents message := by
  refine (run_endsBy reg limits input st).reached_or_stopped.imp_right ?_
  rintro ⟨v, hv, stop, hstop, hending⟩
  cases stop with
  | abort message => exact ⟨v, hv, message, aborts_iff.2 hstop, hending⟩
  | fault cause =>
    rw [expand, hending] at hanswer
    cases hanswer

theorem haltRecords_haltBy (limits : Limits) (text : Text) (visits : Nat) :
    haltRecords limits text (haltBy limits.iterations.value limits.maxLength.value visits text.length) =
      if visits = limits.iterations.value then [.stoppedAfter limits.iterations.value]
      else if limits.maxLength.value < text.length then [.stoppedAtLength text.length limits.maxLength]
      else [] := by
  unfold haltBy
  split_ifs <;> rfl

theorem snd_cut (limit : Limit) (text : Text) :
    (cut limit text).2 = if limit.value < text.length then [.truncated text.length limit] else [] := by
  unfold cut
  split_ifs <;> rfl

/-- The records of an expansion that is answered. If a method aborted it, this is the only
record. If not, there is the record of a halt as the markers that were evaluated and the
length of the last text demand, and then that of a cut. If no record is of a halt or an
abort, a marker was evaluated for each pair of braces, in the order of the pairs. -/
theorem records_tell_ending {limits : Limits} {input shown : Text} {st : σ}
    (hanswer : (expand reg limits input st).answer = .ok shown) :
    let out := expand reg limits input st
    (∀ v ∈ out.visits, ∀ message, Aborts reg v message → out.records = [.aborted v.contents message]) ∧
      ((∀ v ∈ out.visits, ∀ message, ¬ Aborts reg v message) →
        ∃ halt text, (run reg limits input st).ending = .reached halt text ∧
          out.records =
            (if out.visits.length = limits.iterations.value then [.stoppedAfter limits.iterations.value]
              else if limits.maxLength.value < text.length then [.stoppedAtLength text.length limits.maxLength]
              else []) ++
            if limits.maxOutput.value < (StandIn.restore text).length then
              [.truncated (StandIn.restore text).length limits.maxOutput]
            else []) ∧
      ((∀ r ∈ out.records, r.ofHalt = false ∧ r.ofAbort = false) →
        List.Forall₂ (fun v p => ∀ i, v.ClosedAt input i ↔ i = p.closing) out.visits (pairs input)) := by
  intro out
  have hends : EndsBy reg (run reg limits input st).ending out.visits := run_endsBy reg limits input st
  refine ⟨fun v hv message hab => records_of_aborted (hends.ending_of_stop hv (aborts_iff.1 hab)), fun hab => ?_,
    fun hrecords => ?_⟩
  · obtain ⟨halt, text, hending⟩ : ∃ halt text, (run reg limits input st).ending = .reached halt text := by
      refine (reached_or_aborted hanswer).resolve_right ?_
      rintro ⟨v, hv, message, hv', -⟩
      exact hab v hv message hv'
    refine ⟨halt, text, hending, ?_⟩
    rw [← snd_cut, ← haltRecords_haltBy, records_of_reached hending, run_halt_eq hending]
    rfl
  · have hunhalted := unhalted_of_records fun r hr => (hrecords r hr).1
    have hsettled : (run reg limits input st).ending.halt? = some .settled := by
      obtain ⟨halt, text, hending⟩ | ⟨v, -, message, -, hending⟩ := reached_or_aborted hanswer
      · rw [Run.Unhalted, hending] at hunhalted
        rw [hending]
        cases halt with
        | settled => rfl
        | outOfIterations => exact absurd rfl hunhalted.1
        | tooLong => exact absurd rfl hunhalted.2
      · have hmem : .aborted v.contents message ∈ out.records := by
          rw [records_of_aborted hending]
          exact List.mem_cons_self
        exact absurd (hrecords _ hmem).2 (by simp [Record.ofAbort])
    exact (run_visits_match hsettled).imp fun v p h => h.closedAt_iff

/-- An abort after one answer, a halt after two with a cut, and an end without a record. -/
theorem records_tell_ending_sample :
    let limits : Limits := ⟨Limit.count 2, Limit.count 99, Limit.count 3⟩
    let single := "\x7bn\x7d".toList
    let aborted := expand sample limits (single ++ "\x7bx\x7d".toList) 0
    let halted := expand sample limits (single ++ single ++ single) 0
    let ended := expand sample limits single 0
    aborted.records = [.aborted ['x'] ['!']] ∧
      halted.records = [.stoppedAfter 2, .truncated 7 limits.maxOutput] ∧
      List.Forall₂ (fun v p => ∀ i, v.ClosedAt single i ↔ i = p.closing) ended.visits (pairs single) := by
  intro limits single aborted halted ended
  have haborted : ⟨['x'], [], 5, 1⟩ ∈ aborted.visits := List.mem_cons_of_mem _ List.mem_cons_self
  have hanswered : ∀ v ∈ halted.visits, ∀ message, ¬ Aborts sample v message := by
    intro v hv message h
    change v ∈ [_, _] at hv
    rcases List.mem_pair.1 hv with rfl | rfl <;> cases h
  have hreached : (run sample limits (single ++ single ++ single) 0).ending = .reached .outOfIterations _ := rfl
  refine ⟨(@records_tell_ending Nat sample limits _ _ 0 rfl).1 _ haborted ['!'] rfl, ?_,
    (@records_tell_ending Nat sample limits _ _ 0 rfl).2.2 (by decide)⟩
  obtain ⟨halt, text, hending, hrecords⟩ := (@records_tell_ending Nat sample limits _ _ 0 rfl).2.1 hanswered
  cases hreached.symm.trans hending
  exact hrecords

end Expansion

end TagExpander
