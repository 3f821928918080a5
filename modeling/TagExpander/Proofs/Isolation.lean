import TagExpander.Session
import TagExpander.Library.Methods
import TagExpander.Proofs.Locality

/-! Isolation of environments. Calls from outside and jobs of the worker come in any
order. The shared environment is moved by the calls that work on it, a caller's
environment by the expansions it is given to, and a job sees the shared environment
as it was when the job was submitted. -/

namespace TagExpander

def Event.job : Event → Job
  | .started job => job
  | .called job _ => job
  | .ended job _ => job

theorem Job.job_of_mem_events {job : Job} {answer : Except Fault Text} {left : Environment} {e : Event}
    (h : e ∈ job.events answer left) : e.job = job := by
  unfold Job.events at h
  cases answer with
  | error cause =>
    simp only [List.mem_cons, List.not_mem_nil, or_false] at h
    rcases h with rfl | rfl <;> rfl
  | ok parsed =>
    cases hc : job.callback <;> simp only [hc, List.mem_cons, List.not_mem_nil, or_false] at h
    · rcases h with rfl | rfl <;> rfl
    · rcases h with rfl | rfl | rfl <;> rfl
    · rcases h with rfl | rfl | rfl <;> rfl

namespace Session

def Command.isOnShared : Command → Bool
  | .put _ _ | .clear | .parse _ => true
  | _ => false

/-- What a command makes of the shared environment. -/
def sharedStep (p : Parser) (e : Environment) : Command → Environment
  | .put key v => e.insert key v
  | .clear => Table.empty
  | .parse input => (p.expansion e input).2
  | _ => e

theorem after_append (s : Session) (cs ds : List Command) : s.after (cs ++ ds) = (s.after cs).after ds := by
  simp [after, List.foldl_append]

theorem after_cons (s : Session) (c : Command) (cs : List Command) :
    s.after (c :: cs) = (s.step c).2.after cs := rfl

theorem parser_step (s : Session) (c : Command) : (s.step c).2.parser = s.parser := by
  cases c with
  | put key v => rfl
  | clear => rfl
  | parse input => rfl
  | parseFor caller input =>
    simp only [step, parseFor]
    split <;> rfl
  | submit label input callback =>
    simp only [step, submit]
    split <;> rfl
  | work =>
    simp only [step, work]
    split <;> rfl
  | close => rfl

variable {s : Session}

theorem shared_parse (hp : s.parser.IsLocal) (input : Text) :
    (s.parse input).2.shared = (s.parser.expansion s.shared input).2 := by
  obtain ⟨-, hhere, hkeeps⟩ := Parser.expand_local hp input { s.world with own := none }
  have hown : (s.parser.expand input { s.world with own := none }).state.own = none := by
    simpa using hkeeps.own
  calc (s.parse input).2.shared
      = (s.parser.expand input { s.world with own := none }).state.here := by
        simp only [parse, shared, World.here, hown, Option.getD_none]
    _ = (s.parser.expansion s.shared input).2 := hhere

theorem parseFor_of_some (hp : s.parser.IsLocal) {caller : Text} {e : Environment}
    (h : s.callers.get? caller = some e) (input : Text) :
    (s.parseFor caller input).1 = (s.parser.expansion e input).1 ∧
      (s.parseFor caller input).2.shared = s.shared ∧
      (s.parseFor caller input).2.callers = s.callers.insert caller (s.parser.expansion e input).2 ∧
      (s.parseFor caller input).2.worker = s.worker := by
  obtain ⟨hanswer, hhere, hkeeps⟩ := Parser.expand_local hp input { s.world with own := some e }
  simp only [parseFor, h]
  exact ⟨hanswer, hkeeps.shared rfl, congrArg (s.callers.insert caller) hhere, trivial⟩

theorem parseFor_of_none {caller : Text} (h : s.callers.get? caller = none) (input : Text) :
    s.parseFor caller input = (.error .missingKey, s) := by
  simp only [parseFor, h]

def jobEvents (p : Parser) (job : Job) : List Event :=
  job.events (p.expansion job.environment job.input).1 (p.expansion job.environment job.input).2

theorem work_cons (hp : s.parser.IsLocal) {job : Job} {rest : List Job} (h : s.worker.waiting = job :: rest) :
    s.work.shared = s.shared ∧ s.work.callers = s.callers ∧
      s.work.worker = { s.worker with
        waiting := rest
        history := s.worker.history ++ jobEvents s.parser job } := by
  obtain ⟨hanswer, hhere, hkeeps⟩ :=
    Parser.expand_local hp job.input { s.world with own := some job.environment }
  have hevents : job.events (s.parser.expand job.input { s.world with own := some job.environment }).answer
      (s.parser.expand job.input { s.world with own := some job.environment }).state.here =
        jobEvents s.parser job := congrArg₂ job.events hanswer hhere
  simp only [work, h, ← hevents]
  exact ⟨hkeeps.shared rfl, trivial, trivial⟩

theorem work_nil (h : s.worker.waiting = []) : s.work = s := by
  simp only [work, h]

theorem shared_step (hp : s.parser.IsLocal) (c : Command) :
    (s.step c).2.shared = sharedStep s.parser s.shared c := by
  cases c with
  | put key v => rfl
  | clear => rfl
  | parse input => exact shared_parse hp input
  | parseFor caller input =>
    cases h : s.callers.get? caller with
    | none => exact congrArg (shared ·.2) (parseFor_of_none h input)
    | some e => exact (parseFor_of_some hp h input).2.1
  | submit label input callback =>
    simp only [step, submit]
    split <;> rfl
  | work =>
    cases h : s.worker.waiting with
    | nil => exact congrArg shared (work_nil h)
    | cons job rest => exact (work_cons hp h).1
  | close => rfl

def jobOf (s : Session) (label input : Text) (callback : Callback) : Job :=
  ⟨s.worker.submitted, label, input, s.shared, callback⟩

def variablesParser : Parser :=
  ⟨(Registry.build (["set".toList, "get".toList, "fail".toList].filterMap Library.method?)).1, Limits.default⟩

theorem isLocal_texting {name : Text} {act : Text → Handler} (hact : ∀ params, (act params).IsLocal)
    (h : name ≠ [] ∧ name.trim = name) (params : Option Text) (handler : Handler)
    (hhandler : (Library.texting name none act h).action? params = some handler) : handler.IsLocal := by
  cases params with
  | none => cases hhandler
  | some params =>
    cases hhandler
    exact hact params

theorem variablesParser_isLocal : variablesParser.IsLocal := by
  have hset (params : Text) : (Library.set params).IsLocal := by
    unfold Library.set
    dsimp only
    split_ifs
    · trivial
    · exact Procedure.isLocal_bind (fun _ => trivial) fun e => Procedure.isLocal_bind trivial fun _ => trivial
  have hget (params : Text) : (Library.get params).IsLocal := by
    refine Procedure.isLocal_bind (fun _ => trivial) fun e => ?_
    split
    · trivial
    · trivial
    · exact Procedure.isLocal_bind (Procedure.isLocal_shown _) fun _ => trivial
  have hfail (params : Text) : (Library.giveUp params).IsLocal := trivial
  refine Parser.isLocal_of_forms fun e he params handler hhandler => ?_
  have hentries : variablesParser.registry.entries =
      [("set".toList, Library.texting "set".toList none Library.set),
       ("get".toList, Library.texting "get".toList none Library.get),
       ("fail".toList, Library.texting "fail".toList none Library.giveUp)] := rfl
  rw [hentries] at he
  simp only [List.mem_cons, List.not_mem_nil, or_false] at he
  rcases he with rfl | rfl | rfl
  · exact isLocal_texting hset _ params handler hhandler
  · exact isLocal_texting hget _ params handler hhandler
  · exact isLocal_texting hfail _ params handler hhandler

end Session

end TagExpander
