import TagExpander.Proofs.SinglePass

/-! What limits do to an expansion. They cut it short and change nothing else: under
larger limits it begins with the same visits, and if no limit halted it, it is the same
expansion. The limit of the output cuts a text that does not depend on it. -/

namespace TagExpander

variable {σ : Type}

def Record.ofHalt : Record → Bool
  | .stoppedAfter _ => true
  | .stoppedAtLength _ _ => true
  | _ => false

theorem Ending.halt?_eq_some_iff {ending : Ending} {halt : Halt} :
    ending.halt? = some halt ↔ ∃ text, ending = .reached halt text := by
  cases ending <;> simp [Ending.halt?]

/-- A method ended the expansion: its message is the answer, or it faulted. -/
def Outcome.Stopped (out : Outcome σ) : Prop :=
  (∃ contents message, .aborted contents message ∈ out.records) ∨ ∃ cause, out.answer = .error cause

/-- A run goes the way of another one, which may go further if a limit halted the first. -/
structure Run.Cuts (run further : Run σ) : Prop where
  visits : run.visits <+: further.visits
  same : run.Unhalted → further = run

namespace Run.Cuts

theorem refl (run : Run σ) : run.Cuts run := ⟨List.prefix_refl _, fun _ => rfl⟩

theorem cons (visit : Visit σ) {run further : Run σ} (h : run.Cuts further) :
    (run.cons visit).Cuts (further.cons visit) where
  visits := List.cons_prefix_cons.2 ⟨rfl, h.visits⟩
  same hrun := congrArg (Run.cons visit) (h.same hrun)

theorem of_halted {run further : Run σ} (hrun : ¬ run.Unhalted) (h : run.visits <+: further.visits) :
    run.Cuts further :=
  ⟨h, fun hun => absurd hun hrun⟩

end Run.Cuts

namespace Course

theorem visits_within_answered (maxLength more : Nat) (visit : Visit σ) (text : Text) (st : σ)
    (next : Course σ) : [visit] <+: ((answered visit text st next).within maxLength more).visits := by
  cases more with
  | zero => exact List.prefix_refl _
  | succ more =>
    rw [within_answered]
    split_ifs
    · exact List.prefix_refl _
    · exact List.prefix_append [visit] _

theorem cuts_within {maxLength maxLength' more more' : Nat} (hlength : maxLength ≤ maxLength')
    (hmore : more ≤ more') (c : Course σ) : (c.within maxLength more).Cuts (c.within maxLength' more') := by
  induction c generalizing more more' with
  | settled text st =>
    rw [within_settled, within_settled]
    exact .refl _
  | stopped visit stop st =>
    rw [within_stopped, within_stopped]
    exact .refl _
  | answered visit text st next ih =>
    -- where the smaller limits end the run here, only the first visit is to be compared
    cases more with
    | zero => exact .of_halted (fun h => h.1 rfl) (visits_within_answered _ _ _ _ _ _)
    | succ more =>
      obtain ⟨more', rfl⟩ := Nat.exists_eq_add_one_of_ne_zero (by omega : more' ≠ 0)
      by_cases hlong : maxLength < text.length
      · rw [within_answered, if_pos hlong]
        exact .of_halted (fun h => h.2 rfl) (visits_within_answered _ _ _ _ _ _)
      · have hlong' : ¬ maxLength' < text.length := by omega
        rw [within_answered, within_answered, if_neg hlong, if_neg hlong']
        exact (ih (by omega)).cons visit

end Course

namespace Expansion

theorem cuts_run (reg : Registry (Action σ)) {limits limits' : Limits}
    (hiterations : limits.iterations.value ≤ limits'.iterations.value)
    (hlength : limits.maxLength.value ≤ limits'.maxLength.value) (input : Text) (st : σ) :
    (run reg limits input st).Cuts (run reg limits' input st) := by
  rw [run_eq_within reg limits, run_eq_within reg limits']
  by_cases hlong : limits.maxLength.value < (StandIn.hide input).length
  · rw [if_pos hlong]
    exact .of_halted (fun h => h.2 rfl) List.nil_prefix
  · have hlong' : ¬ limits'.maxLength.value < (StandIn.hide input).length := by omega
    rw [if_neg hlong, if_neg hlong']
    exact Course.cuts_within hlength (by omega) _

theorem records_of_reached {reg : Registry (Action σ)} {limits : Limits} {input text : Text} {st : σ}
    {halt : Halt} (h : (run reg limits input st).ending = .reached halt text) :
    (expand reg limits input st).records =
      haltRecords limits text halt ++ (cut limits.maxOutput (StandIn.restore text)).2 := by
  rw [expand, h]
  rfl

theorem unhalted_of_records {reg : Registry (Action σ)} {limits : Limits} {input : Text} {st : σ}
    (h : ∀ r ∈ (expand reg limits input st).records, r.ofHalt = false) :
    (run reg limits input st).Unhalted := by
  have hrecords {halt : Halt} (hhalt : (run reg limits input st).ending.halt? = some halt) :
      ∃ text, ∀ r ∈ haltRecords limits text halt, r.ofHalt = false := by
    obtain ⟨text, hending⟩ := Ending.halt?_eq_some_iff.1 hhalt
    rw [records_of_reached hending] at h
    exact ⟨text, fun r hr => h r (List.mem_append_left _ hr)⟩
  constructor
  · intro hout
    obtain ⟨text, hr⟩ := hrecords hout
    cases hr _ List.mem_cons_self
  · intro hlong
    obtain ⟨text, hr⟩ := hrecords hlong
    cases hr _ List.mem_cons_self

/-- What a run that no limit halted is answered with depends on the limit of the output
only, and not on that either if a method stopped the run. -/
theorem answer_congr {run : Run σ} (h : run.Unhalted) {limits limits' : Limits}
    (hsame : (∀ halt text, run.ending ≠ .reached halt text) ∨ limits.maxOutput = limits'.maxOutput) :
    answer limits' run.ending = answer limits run.ending := by
  obtain ⟨ending, st, visits⟩ := run
  cases ending with
  | reached halt text =>
    obtain hstopped | houtput := hsame
    · exact absurd rfl (hstopped halt text)
    · cases halt with
      | settled => simp only [answer, haltRecords, houtput]
      | outOfIterations => exact absurd rfl h.1
      | tooLong => exact absurd rfl h.2
  | aborted contents message => rfl
  | faulted cause => rfl

theorem expand_congr {reg : Registry (Action σ)} {limits limits' : Limits} {input : Text} {st : σ}
    (hrun : run reg limits' input st = run reg limits input st) (h : (run reg limits input st).Unhalted)
    (hsame : (∀ halt text, (run reg limits input st).ending ≠ .reached halt text) ∨
      limits.maxOutput = limits'.maxOutput) :
    expand reg limits' input st = expand reg limits input st := by
  rw [expand, expand, hrun, answer_congr h hsame]

theorem stopped_iff {reg : Registry (Action σ)} {limits : Limits} {input : Text} {st : σ} :
    (expand reg limits input st).Stopped ↔ ∀ halt text, (run reg limits input st).ending ≠ .reached halt text := by
  unfold Outcome.Stopped expand
  generalize run reg limits input st = run
  obtain ⟨ending, st', visits⟩ := run
  cases ending with
  | reached halt text =>
    refine ⟨fun h => ?_, fun h => absurd rfl (h halt text)⟩
    have hhalt (contents message : Text) : .aborted contents message ∉ haltRecords limits text halt := by
      cases halt <;> simp [haltRecords]
    have hcut (contents message : Text) :
        .aborted contents message ∉ (cut limits.maxOutput (StandIn.restore text)).2 := by
      unfold cut
      split_ifs <;> simp
    rcases h with ⟨contents, message, hmem⟩ | ⟨cause, hcause⟩
    · exact absurd ((List.mem_append.1 hmem).resolve_left (hhalt contents message)) (hcut contents message)
    · cases hcause
  | aborted contents message => simp [answer]
  | faulted cause => simp [answer]

/-- Limits only cut an expansion short. Under larger limits the calls begin with those
under smaller ones. If the smaller ones halted nothing they made no difference, and both
expansions are the same with the same limit of the output, whichever it is. An expansion
that no method stopped has one text, of which it answers as much as this limit lets it. -/
theorem limits_only_cut (reg : Registry (Action σ)) {limits limits' : Limits}
    (hiterations : limits.iterations.value ≤ limits'.iterations.value)
    (hlength : limits.maxLength.value ≤ limits'.maxLength.value) (input : Text) (st : σ) :
    let out := expand reg limits input st
    let out' := expand reg limits' input st
    (out.calls <+: out'.calls ∧ reg.answered out.calls <+: reg.answered out'.calls) ∧
      ((∀ r ∈ out.records, r.ofHalt = false) →
        out'.calls = out.calls ∧ out'.state = out.state ∧ (out.Stopped → out' = out) ∧
          ∀ m : Limit, expand reg { limits' with maxOutput := m } input st =
            expand reg { limits with maxOutput := m } input st) ∧
      (¬ out.Stopped → ∃ text : Text, ∀ m : Limit,
        (expand reg { limits with maxOutput := m } input st).answer = .ok (text.take m.value)) := by
  intro out out'
  have hcuts := cuts_run reg hiterations hlength input st
  have hcalls : out.calls <+: out'.calls := hcuts.visits.map _
  refine ⟨⟨hcalls, hcalls.filter _⟩, fun hrecords => ?_, fun hstopped => ?_⟩
  · have hunhalted := unhalted_of_records hrecords
    have hrun : run reg limits' input st = run reg limits input st := hcuts.same hunhalted
    refine ⟨congrArg (fun r : Run σ => r.outcome.calls) hrun, congrArg Run.state hrun,
      fun hstopped => expand_congr hrun hunhalted (Or.inl (stopped_iff.1 hstopped)), fun m => ?_⟩
    exact @expand_congr _ reg { limits with maxOutput := m } { limits' with maxOutput := m } _ _
      hrun hunhalted (Or.inr rfl)
  · obtain ⟨halt, text, hending⟩ : ∃ halt text, (run reg limits input st).ending = .reached halt text := by
      by_contra! hnone
      exact hstopped (stopped_iff.2 hnone)
    exact ⟨StandIn.restore text, fun m => answer_of_reached hending⟩

/-- The third call aborts. The smallest limits do not admit it, and for the others it makes
no difference how much of an output they let through. -/
theorem limits_only_cut_sample :
    let input := "\x7bn\x7d\x7bn\x7d\x7bx\x7d".toList
    let limits : Limits := ⟨Limit.count 2, Limit.count 20, Limit.count 5⟩
    let limits' : Limits := ⟨Limit.count 3, Limit.count 30, Limit.count 5⟩
    let limits'' : Limits := ⟨Limit.count 4, Limit.count 30, Limit.count 1⟩
    let out := expand sample limits input 0
    let out' := expand sample limits' input 0
    let out'' := expand sample limits'' input 0
    out.calls.length = 2 ∧ out.calls <+: out'.calls ∧ out'.calls.length = 3 ∧ out'' = out' ∧
      ∃ text : Text, ∀ m : Limit,
        (expand sample { limits with maxOutput := m } input 0).answer = .ok (text.take m.value) := by
  intro input limits limits' limits'' out out' out''
  have hsmall := limits_only_cut sample (by decide : limits.iterations.value ≤ limits'.iterations.value)
    (by decide) input 0
  have hlarge := limits_only_cut sample (by decide : limits'.iterations.value ≤ limits''.iterations.value)
    (by decide) input 0
  have haborted : out'.Stopped := Or.inl ⟨['x'], ['!'], List.mem_cons_self⟩
  have hreached : ¬ out.Stopped := by
    rw [stopped_iff, not_forall]
    exact ⟨.outOfIterations, fun h => h _ rfl⟩
  obtain ⟨-, -, hsame, -⟩ := hlarge.2.1 (by decide)
  exact ⟨rfl, hsmall.1.1, rfl, hsame haborted, hsmall.2.2 hreached⟩

end Expansion

end TagExpander
