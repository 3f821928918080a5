import TagExpander.Proofs.Isolation

/-! The queue of a worker. Which jobs there are, and on which environment each of them
works, is settled by the calls from outside alone. The worker takes the jobs up in this
order, each of them once, and what happens to a job is over before the next one starts. -/

namespace TagExpander.Session

def Command.isWork : Command → Bool
  | .work => true
  | _ => false

def Command.isSubmit : Command → Bool
  | .submit _ _ _ => true
  | _ => false

/-- What calls from outside come to: the shared environment, whether jobs are still
taken, and the jobs that were. -/
structure Ledger where
  shared : Environment
  isOpen : Bool
  jobs : List Job

namespace Ledger

def blank : Ledger := ⟨Table.empty, true, []⟩

/-- A job is entered with the shared environment as it is. What becomes of it, and the
moves of the worker, do not matter here. -/
def step (p : Parser) (l : Ledger) : Command → Ledger
  | .submit label input callback =>
    if l.isOpen then { l with jobs := l.jobs ++ [⟨l.jobs.length, label, input, l.shared, callback⟩] } else l
  | .close => { l with isOpen := false }
  | c => { l with shared := sharedStep p l.shared c }

def after (p : Parser) (l : Ledger) (cs : List Command) : Ledger :=
  cs.foldl (step p) l

variable (p : Parser) (l : Ledger)

theorem shared_step (c : Command) : (l.step p c).shared = sharedStep p l.shared c := by
  cases c with
  | submit label input callback =>
    unfold step
    split_ifs <;> rfl
  | _ => rfl

theorem jobs_step (c : Command) : l.jobs <+: (l.step p c).jobs := by
  cases c with
  | submit label input callback =>
    unfold step
    split_ifs
    · exact List.prefix_append _ _
    · exact List.prefix_refl _
  | _ => exact List.prefix_refl _

theorem jobs_after (cs : List Command) : l.jobs <+: (l.after p cs).jobs := by
  induction cs generalizing l with
  | nil => exact List.prefix_refl _
  | cons c cs ih => exact (jobs_step p l c).trans (ih (l.step p c))

theorem closed_after {l : Ledger} (h : l.isOpen = false) (cs : List Command) :
    (l.after p cs).isOpen = false := by
  induction cs generalizing l with
  | nil => exact h
  | cons c cs ih =>
    refine ih (l := l.step p c) ?_
    cases c <;> simp [step, h]

theorem closed_of_mem {cs : List Command} (h : .close ∈ cs) : (l.after p cs).isOpen = false := by
  obtain ⟨a, b, rfl⟩ := List.append_of_mem h
  rw [after, List.foldl_append]
  exact closed_after p rfl b

end Ledger

/-- The session has done what the ledger says: of the jobs, in their order, some are done,
some are `running` with events still `pending`, and the others wait. -/
structure Serves (p : Parser) (l : Ledger) (s : Session) (running : List Job) (pending : List Event) :
    Prop where
  parser : s.parser = p
  shared : s.shared = l.shared
  isOpen : s.worker.isOpen = l.isOpen
  submitted : s.worker.submitted = l.jobs.length
  numbers : l.jobs.map (·.number) = List.range l.jobs.length
  queue : ∃ done begun, l.jobs = done ++ running ++ s.worker.waiting ∧
    s.worker.history = done.flatMap (jobEvents p) ++ begun ∧
    begun ++ pending = running.flatMap (jobEvents p)

theorem serves_start (p : Parser) (callers : Table Environment) (draws : List Nat) :
    Serves p Ledger.blank (start p callers draws) [] [] :=
  ⟨rfl, rfl, rfl, rfl, rfl, [], [], rfl, rfl, rfl⟩

section
variable {p : Parser} {l : Ledger} {s : Session} {running : List Job} {pending : List Event}

theorem serves_submit (h : Serves p l s running pending) (label input : Text) (callback : Callback) :
    Serves p (l.step p (.submit label input callback)) (s.step (.submit label input callback)).2
      running pending := by
  by_cases hopen : l.isOpen
  · have hjob : s.jobOf label input callback = ⟨l.jobs.length, label, input, l.shared, callback⟩ := by
      rw [jobOf, h.submitted, h.shared]
    have hsession : (s.step (.submit label input callback)).2 = { s with worker := { s.worker with
        submitted := s.worker.submitted + 1
        waiting := s.worker.waiting ++ [s.jobOf label input callback] } } := by
      simp only [step, submit, Worker.submit, h.isOpen, hopen, if_true]
      rfl
    obtain ⟨done, begun, hjobs, hrest⟩ := h.queue
    rw [hsession, hjob, Ledger.step, if_pos hopen]
    refine ⟨h.parser, h.shared, h.isOpen, ?_, ?_, done, begun, ?_, hrest⟩
    · simp [h.submitted]
    · simp [h.numbers, List.range_succ]
    · simp [hjobs]
  · have hsession : (s.step (.submit label input callback)).2 = s := by
      simp only [step, submit, Worker.submit, h.isOpen, hopen]
      rfl
    rwa [hsession, Ledger.step, if_neg hopen]

theorem serves_call (hp : p.IsLocal) (h : Serves p l s running pending) {c : Command}
    (hc : c.isWork = false) : Serves p (l.step p c) (s.step c).2 running pending := by
  have hparser : (s.step c).2.parser = p := (parser_step s c).trans h.parser
  have hshared : (s.step c).2.shared = (l.step p c).shared := by
    rw [shared_step (h.parser ▸ hp), Ledger.shared_step, h.parser, h.shared]
  cases c with
  | put key v => exact ⟨hparser, hshared, h.isOpen, h.submitted, h.numbers, h.queue⟩
  | clear => exact ⟨hparser, hshared, h.isOpen, h.submitted, h.numbers, h.queue⟩
  | parse input => exact ⟨hparser, hshared, h.isOpen, h.submitted, h.numbers, h.queue⟩
  | parseFor caller input =>
    have hworker : (s.step (.parseFor caller input)).2.worker = s.worker := by
      simp only [step, parseFor]
      split <;> rfl
    exact ⟨hparser, hshared, hworker ▸ h.isOpen, hworker ▸ h.submitted, h.numbers, hworker ▸ h.queue⟩
  | submit label input callback => exact serves_submit h label input callback
  | work => cases hc
  | close => exact ⟨hparser, hshared, rfl, h.submitted, h.numbers, h.queue⟩

theorem serves_step (hp : p.IsLocal) (h : Serves p l s [] []) (c : Command) :
    Serves p (l.step p c) (s.step c).2 [] [] := by
  cases hc : c.isWork with
  | false => exact serves_call hp h hc
  | true =>
    cases c with
    | work =>
      cases hw : s.worker.waiting with
      | nil =>
        rw [show (s.step .work).2 = s from work_nil hw]
        exact h
      | cons job rest =>
        obtain ⟨hshared, -, hworker⟩ := work_cons (h.parser ▸ hp) hw
        obtain ⟨done, begun, hjobs, hhistory, hbegun⟩ := h.queue
        rw [List.append_nil, List.flatMap_nil] at hbegun
        refine ⟨(parser_step s .work).trans h.parser, hshared.trans h.shared, ?_, ?_, h.numbers,
          done ++ [job], [], ?_, ?_, rfl⟩
        · exact (congrArg Worker.isOpen hworker).trans h.isOpen
        · exact (congrArg Worker.submitted hworker).trans h.submitted
        · exact hjobs.trans (by rw [show (s.step .work).2.worker = _ from hworker, hw]; simp)
        · exact (congrArg Worker.history hworker).trans (by rw [hhistory, hbegun, h.parser]; simp)
    | _ => cases hc

theorem serves_after (hp : p.IsLocal) (h : Serves p l s [] []) (cs : List Command) :
    Serves p (l.after p cs) (s.after cs) [] [] := by
  induction cs generalizing l s with
  | nil => exact h
  | cons c cs ih => exact ih (serves_step hp h c)

end

def completion (p : Parser) (job : Job) : Except Fault Completion :=
  (p.expansion job.environment job.input).1.map fun parsed => ⟨parsed, (p.expansion job.environment job.input).2⟩

def calls (p : Parser) (job : Job) : List Event :=
  match job.callback, completion p job with
  | .listen, .ok c => [.called job c]
  | _, _ => []

/-- A job starts, its listener is called with what it comes to, and it ends with that. -/
theorem jobEvents_eq (p : Parser) {job : Job} (h : job.callback ≠ .faulty) :
    jobEvents p job = .started job :: (calls p job ++ [.ended job (completion p job)]) := by
  unfold jobEvents Job.events calls completion
  cases (p.expansion job.environment job.input).1 with
  | error cause => cases job.callback <;> rfl
  | ok parsed =>
    cases hc : job.callback with
    | silent => rfl
    | listen => rfl
    | faulty => exact absurd hc h

theorem result?_of_done {p : Parser} {l : Ledger} {s : Session} {running : List Job} {pending : List Event}
    (h : Serves p l s running pending) {done : List Job} {begun : List Event}
    (hjobs : l.jobs = done ++ running ++ s.worker.waiting)
    (hhistory : s.worker.history = done.flatMap (jobEvents p) ++ begun) {job : Job} (hjob : job ∈ done)
    (hcallback : job.callback ≠ .faulty) : s.worker.result? job.number = some (completion p job) := by
  obtain ⟨earlier, later, rfl⟩ := List.append_of_mem hjob
  have hnumbers : (earlier.map (·.number)).Disjoint
      (job.number :: (later ++ running ++ s.worker.waiting).map (·.number)) := by
    refine List.disjoint_of_nodup_append ?_
    have hnodup : (l.jobs.map (·.number)).Nodup := h.numbers ▸ List.nodup_range
    simpa [hjobs] using hnodup
  have hsplit : s.worker.history =
      earlier.flatMap (jobEvents p) ++ (jobEvents p job ++ (later.flatMap (jobEvents p) ++ begun)) := by
    simp [hhistory]
  unfold Worker.result?
  rw [hsplit, List.findSome?_append, List.findSome?_eq_none_iff.2, Option.none_or, jobEvents_eq p hcallback]
  · unfold calls
    cases job.callback <;> cases completion p job <;> simp
  · intro e he
    obtain ⟨other, hother, hmem⟩ := List.mem_flatMap.1 he
    have hne : e.job.number ≠ job.number := by
      rw [Job.job_of_mem_events hmem]
      exact fun heq => hnumbers (List.mem_map_of_mem hother) (heq ▸ List.mem_cons_self)
    cases e with
    | ended ended r => exact if_neg hne
    | _ => rfl

end TagExpander.Session
