import TagExpander.Proofs.Queueing

/-! A worker whose jobs are not run in one go. Its thread takes a job up, expands the
text, and makes known what happened, one thing at a time; between any two of these moves
there may be calls from outside. As a job works on an environment of its own, this makes
no difference: to every such run there is one with jobs in one go that has the same calls. -/

namespace TagExpander.Session

/-- What the thread is at: it has no job, or one whose text is still to be expanded, or
one with events that are still to happen. -/
inductive Turn where
  | idle
  | expanding (job : Job)
  | reporting (job : Job) (events : List Event)

namespace Turn

def jobs : Turn → List Job
  | idle => []
  | expanding job => [job]
  | reporting job _ => [job]

def pending (p : Parser) : Turn → List Event
  | idle => []
  | expanding job => (jobEvents p job).tail
  | reporting _ events => events

end Turn

structure Scene where
  session : Session
  turn : Turn

def record (s : Session) (es : List Event) : Session :=
  { s with worker := { s.worker with history := s.worker.history ++ es } }

namespace Scene

def start (p : Parser) (callers : Table Environment) (draws : List Nat) : Scene :=
  ⟨Session.start p callers draws, .idle⟩

def move (x : Scene) : Scene :=
  match x.turn with
  | .idle =>
    match x.session.worker.waiting with
    | [] => x
    | job :: rest =>
      ⟨{ x.session with worker := { x.session.worker with waiting := rest } }.record [.started job],
        .expanding job⟩
  | .expanding job =>
    let out := x.session.parser.expand job.input { x.session.world with own := some job.environment }
    ⟨{ x.session with world := { x.session.world with shared := out.state.shared, draws := out.state.draws } },
      .reporting job (job.events out.answer out.state.here).tail⟩
  | .reporting _ [] => ⟨x.session, .idle⟩
  | .reporting job (e :: es) => ⟨x.session.record [e], .reporting job es⟩

/-- A call from outside does not touch the thread. -/
def step (x : Scene) : Command → Reply × Scene
  | .work => (.done, x.move)
  | c => ((x.session.step c).1, ⟨(x.session.step c).2, x.turn⟩)

def after (x : Scene) (cs : List Command) : Scene :=
  cs.foldl (fun x c => (x.step c).2) x

/-- The session as it is when all has happened to the job that is running. -/
def whole (p : Parser) (x : Scene) : Session :=
  x.session.record (x.turn.pending p)

end Scene

variable {p : Parser}

theorem jobEvents_eq_cons (p : Parser) (job : Job) :
    jobEvents p job = .started job :: (jobEvents p job).tail := by
  unfold jobEvents Job.events
  split
  · rfl
  · cases job.callback <;> rfl

theorem record_record (s : Session) (a b : List Event) : (s.record a).record b = s.record (a ++ b) := by
  simp [record]

@[simp] theorem record_nil (s : Session) : s.record [] = s := by
  simp [record]

theorem step_record (s : Session) (es : List Event) {c : Command} (hc : c.isWork = false) :
    (s.record es).step c = ((s.step c).1, (s.step c).2.record es) := by
  cases c with
  | parseFor caller input =>
    simp only [step, parseFor, record]
    split <;> rfl
  | submit label input callback =>
    cases h : s.worker.isOpen <;> simp [step, submit, Worker.submit, record, shared, h]
  | work => cases hc
  | _ => rfl

theorem world_expand_job {s : Session} (hp : s.parser.IsLocal) (job : Job) :
    let out := s.parser.expand job.input { s.world with own := some job.environment }
    { s.world with shared := out.state.shared, draws := out.state.draws } = s.world ∧
      job.events out.answer out.state.here = jobEvents s.parser job := by
  obtain ⟨hanswer, hhere, hkeeps⟩ :=
    Parser.expand_local hp job.input { s.world with own := some job.environment }
  intro out
  have hshared : out.state.shared = s.world.shared := hkeeps.shared rfl
  have hdraws : out.state.draws = s.world.draws := hkeeps.draws
  exact ⟨by rw [hshared, hdraws], congrArg₂ job.events hanswer hhere⟩

theorem work_eq {s : Session} (hp : s.parser.IsLocal) {job : Job} {rest : List Job}
    (h : s.worker.waiting = job :: rest) :
    s.work = { s with worker := { s.worker with waiting := rest } }.record (jobEvents s.parser job) := by
  obtain ⟨hworld, hevents⟩ := world_expand_job hp job
  simp only [work, h, hworld, hevents]
  rfl

namespace Scene

theorem parser_move (x : Scene) : x.move.session.parser = x.session.parser := by
  unfold move
  split
  · split <;> rfl
  · rfl
  · rfl
  · rfl

theorem parser_step (x : Scene) (c : Command) : (x.step c).2.session.parser = x.session.parser := by
  cases c with
  | work => exact parser_move x
  | _ => exact Session.parser_step x.session _

/-- In a move of the thread the whole session stays as it is, apart from the moment when
a job is taken up: then all of it has happened. -/
theorem whole_move (hp : p.IsLocal) {x : Scene} (hx : x.session.parser = p) :
    x.move.whole p = match x.turn with
      | .idle => (x.whole p).work
      | _ => x.whole p := by
  obtain ⟨s, turn⟩ := x
  subst hx
  cases turn with
  | idle =>
    cases h : s.worker.waiting with
    | nil => simp [move, h, whole, Turn.pending, work_nil h]
    | cons job rest =>
      simp only [move, h, whole, Turn.pending, record_nil, work_eq hp h, record_record]
      rw [List.singleton_append, ← jobEvents_eq_cons]
  | expanding job =>
    obtain ⟨hworld, hevents⟩ := world_expand_job hp job
    simp only [move, whole, Turn.pending, hworld, hevents]
  | reporting job events =>
    cases events with
    | nil => rfl
    | cons e es => simp only [move, whole, Turn.pending, record_record, List.singleton_append]

/-- To the whole session a command does what it does where jobs run in one go, or, being
a move of the thread, nothing. -/
theorem whole_step (hp : p.IsLocal) {x : Scene} (hx : x.session.parser = p) (c : Command) :
    (x.step c).2.whole p = ((x.whole p).step c).2 ∨ c = .work ∧ (x.step c).2.whole p = x.whole p := by
  cases c with
  | work =>
    have hmove := whole_move hp hx
    cases hturn : x.turn with
    | idle =>
      rw [hturn] at hmove
      exact Or.inl hmove
    | expanding job =>
      rw [hturn] at hmove
      exact Or.inr ⟨rfl, hmove⟩
    | reporting job events =>
      rw [hturn] at hmove
      exact Or.inr ⟨rfl, hmove⟩
  | _ => exact Or.inl (congrArg Prod.snd (step_record x.session (x.turn.pending p) rfl)).symm

/-- Whatever the calls from outside come between, they come to the same as with jobs in one
go. -/
theorem exists_in_one_go (hp : p.IsLocal) {x : Scene} (hx : x.session.parser = p) (cs : List Command) :
    ∃ ds, (ds.filter fun c => !c.isWork) = (cs.filter fun c => !c.isWork) ∧
      (x.after cs).whole p = (x.whole p).after ds := by
  induction cs generalizing x with
  | nil => exact ⟨[], rfl, rfl⟩
  | cons c cs ih =>
    obtain ⟨ds, hcalls, hwhole⟩ := ih ((parser_step x c).trans hx)
    rcases whole_step hp hx c with h | ⟨rfl, h⟩
    · refine ⟨c :: ds, by simp [hcalls, List.filter_cons], ?_⟩
      rw [after_cons, ← h]
      exact hwhole
    · exact ⟨ds, by simpa [Command.isWork] using hcalls, h ▸ hwhole⟩

def Serves (p : Parser) (l : Ledger) (x : Scene) : Prop :=
  Session.Serves p l x.session x.turn.jobs (x.turn.pending p)

theorem serves_move (hp : p.IsLocal) {l : Ledger} {x : Scene} (h : x.Serves p l) : x.move.Serves p l := by
  obtain ⟨s, turn⟩ := x
  obtain rfl : s.parser = p := h.parser
  obtain ⟨done, begun, hjobs, hhistory, hbegun⟩ := h.queue
  simp only at hhistory
  cases turn with
  | idle =>
    cases hw : s.worker.waiting with
    | nil => simpa [move, hw] using h
    | cons job rest =>
      simp only [Turn.jobs, Turn.pending, List.append_nil, List.flatMap_nil, hw] at hjobs hbegun
      simp only [move, hw]
      refine ⟨h.parser, h.shared, h.isOpen, h.submitted, h.numbers, done, [.started job], ?_, ?_, ?_⟩
      · simpa [Turn.jobs, record] using hjobs
      · simp [record, hhistory, hbegun]
      · simpa [Turn.jobs, Turn.pending] using (jobEvents_eq_cons s.parser job).symm
  | expanding job =>
    obtain ⟨hworld, hevents⟩ := world_expand_job hp job
    simp only [Turn.jobs, Turn.pending] at hjobs hbegun
    simp only [move, hworld, hevents]
    exact ⟨h.parser, h.shared, h.isOpen, h.submitted, h.numbers, done, begun, hjobs, hhistory, hbegun⟩
  | reporting job events =>
    cases events with
    | nil =>
      simp only [Turn.jobs, Turn.pending, List.append_nil] at hjobs hbegun
      refine ⟨h.parser, h.shared, h.isOpen, h.submitted, h.numbers, done ++ [job], [], ?_, ?_, rfl⟩
      · simpa [move, Turn.jobs] using hjobs
      · simp [move, hhistory, hbegun]
    | cons e es =>
      simp only [Turn.jobs, Turn.pending] at hjobs hbegun
      refine ⟨h.parser, h.shared, h.isOpen, h.submitted, h.numbers, done, begun ++ [e], hjobs, ?_, ?_⟩
      · simp [move, record, hhistory]
      · simpa [move, Turn.pending, Turn.jobs] using hbegun

theorem serves_step (hp : p.IsLocal) {l : Ledger} {x : Scene} (h : x.Serves p l) (c : Command) :
    (x.step c).2.Serves p (l.step p c) := by
  cases c with
  | work => exact serves_move hp h
  | _ => exact serves_call hp h rfl

theorem serves_after (hp : p.IsLocal) {l : Ledger} {x : Scene} (h : x.Serves p l) (cs : List Command) :
    (x.after cs).Serves p (l.after p cs) := by
  induction cs generalizing l x with
  | nil => exact h
  | cons c cs ih => exact ih (serves_step hp h c)

/-- How many events there were, and between them the place in the round of the thread. -/
def progress (x : Scene) : Nat :=
  3 * x.session.worker.history.length +
    match x.turn with
    | .idle => 2
    | .expanding _ => 0
    | .reporting _ _ => 1

def Rests (x : Scene) : Prop := x.turn = .idle ∧ x.session.worker.waiting = []

theorem progress_move {x : Scene} (h : ¬ x.Rests) : x.progress < x.move.progress := by
  obtain ⟨s, turn⟩ := x
  cases turn with
  | idle =>
    cases hw : s.worker.waiting with
    | nil => exact absurd ⟨rfl, hw⟩ h
    | cons job rest =>
      simp only [move, progress, hw, record, List.length_append, List.length_singleton]
      omega
  | expanding job => simp [move, progress]
  | reporting job events =>
    cases events with
    | nil => simp [move, progress]
    | cons e es =>
      simp only [move, progress, record, List.length_append, List.length_singleton]
      omega

theorem history_move (x : Scene) : x.session.worker.history <+: x.move.session.worker.history := by
  unfold move
  split
  · split
    · exact List.prefix_refl _
    · exact List.prefix_append _ _
  · exact List.prefix_refl _
  · exact List.prefix_refl _
  · exact List.prefix_append _ _

theorem history_call (s : Session) {c : Command} (hc : c.isWork = false) :
    (s.step c).2.worker.history = s.worker.history := by
  cases c with
  | parseFor caller input =>
    simp only [Session.step, parseFor]
    split <;> rfl
  | submit label input callback =>
    cases h : s.worker.isOpen <;> simp [Session.step, submit, Worker.submit, h]
  | work => cases hc
  | _ => rfl

theorem history_step (x : Scene) (c : Command) :
    x.session.worker.history <+: (x.step c).2.session.worker.history ∧
      (x.progress + [c].countP (·.isWork) ≤ (x.step c).2.progress ∨ c = .work ∧ x.Rests) := by
  cases hc : c.isWork with
  | false =>
    have hstep : (x.step c).2 = ⟨(x.session.step c).2, x.turn⟩ := by
      cases c with
      | work => cases hc
      | _ => rfl
    rw [hstep]
    exact ⟨(history_call x.session hc).symm ▸ List.prefix_refl _,
      Or.inl (by simp [progress, history_call x.session hc, hc])⟩
  | true =>
    obtain rfl : c = .work := by
      cases c with
      | work => rfl
      | _ => cases hc
    refine ⟨history_move x, ?_⟩
    by_cases h : x.Rests
    · exact Or.inr ⟨rfl, h⟩
    · exact Or.inl (progress_move h)

theorem history_after (x : Scene) (cs : List Command) :
    x.session.worker.history <+: (x.after cs).session.worker.history := by
  induction cs generalizing x with
  | nil => exact List.prefix_refl _
  | cons c cs ih => exact (history_step x c).1.trans (ih _)

/-- What has happened is the beginning of what the ledger says, and all of it where the
thread rests. -/
theorem history_of_serves {l : Ledger} {x : Scene} (h : x.Serves p l) :
    x.session.worker.history <+: l.jobs.flatMap (jobEvents p) ∧
      (x.Rests → x.session.worker.history = l.jobs.flatMap (jobEvents p)) := by
  obtain ⟨done, begun, hjobs, hhistory, hbegun⟩ := h.queue
  constructor
  · rw [hhistory, hjobs, List.flatMap_append, List.flatMap_append, ← hbegun]
    exact ⟨x.turn.pending p ++ x.session.worker.waiting.flatMap (jobEvents p), by simp⟩
  · rintro ⟨hturn, hwaiting⟩
    simp only [hturn, Turn.jobs, Turn.pending, hwaiting, List.append_nil, List.flatMap_nil] at hjobs hbegun
    rw [hhistory, hjobs, hbegun, List.append_nil]

/-- Either all has happened that `first` jobs of the ledger make happen, or the thread has
got on with each of its moves. -/
theorem served_or_progress (hp : p.IsLocal) {l : Ledger} {x : Scene} (h : x.Serves p l) {first : List Job}
    (hfirst : first <+: l.jobs) (cs : List Command) :
    first.flatMap (jobEvents p) <+: (x.after cs).session.worker.history ∨
      x.progress + cs.countP (·.isWork) ≤ (x.after cs).progress := by
  induction cs generalizing l x with
  | nil => exact Or.inr le_rfl
  | cons c cs ih =>
    rcases (history_step x c).2 with hstep | ⟨rfl, hrests⟩
    · refine (ih (serves_step hp h c) (hfirst.trans (Ledger.jobs_step p l c))).imp_right fun hrest => ?_
      calc x.progress + (c :: cs).countP (·.isWork)
          = x.progress + [c].countP (·.isWork) + cs.countP (·.isWork) := by
            rw [← List.singleton_append, List.countP_append, Nat.add_assoc]
        _ ≤ (x.step c).2.progress + cs.countP (·.isWork) := Nat.add_le_add_right hstep _
        _ ≤ _ := hrest
    · refine Or.inl (List.IsPrefix.trans ?_ (history_after x (.work :: cs)))
      obtain ⟨rest, hrest⟩ := hfirst
      rw [(history_of_serves h).2 hrests, ← hrest, List.flatMap_append]
      exact List.prefix_append _ _

/-- The jobs there are get done, whatever calls come between, if only the thread moves
often enough. -/
theorem all_served (hp : p.IsLocal) {l : Ledger} {x : Scene} (h : x.Serves p l) :
    ∃ n, ∀ cs : List Command, n ≤ cs.countP (·.isWork) →
      l.jobs.flatMap (jobEvents p) <+: (x.after cs).session.worker.history := by
  refine ⟨3 * (l.jobs.flatMap (jobEvents p)).length + 3, fun cs hn => ?_⟩
  rcases served_or_progress hp h (List.prefix_refl _) cs with hserved | hprogress
  · exact hserved
  · have hlater := serves_after hp h cs
    obtain ⟨rest, hrest⟩ := Ledger.jobs_after p l cs
    refine List.prefix_of_prefix_length_le ?_ (history_of_serves hlater).1 ?_
    · rw [← hrest, List.flatMap_append]
      exact List.prefix_append _ _
    · have hplace : (x.after cs).progress ≤ 3 * (x.after cs).session.worker.history.length + 2 := by
        unfold progress
        split <;> omega
      omega

def close (x : Scene) : Scene := ⟨x.session.close, x.turn⟩

theorem close_move (x : Scene) : x.close.move = x.move.close := by
  obtain ⟨s, turn⟩ := x
  cases turn with
  | idle =>
    cases hw : s.worker.waiting <;> simp [move, close, Session.close, Worker.close, record, hw]
  | expanding job => rfl
  | reporting job events => cases events <;> rfl

theorem step_close (x : Scene) {c : Command} (hc : c.isSubmit = false) :
    x.close.step c = ((x.step c).1, (x.step c).2.close) := by
  cases c with
  | work => exact congrArg (Prod.mk Reply.done) (close_move x)
  | parseFor caller input =>
    simp only [step, Session.step, parseFor, close, Session.close]
    split <;> rfl
  | submit label input callback => cases hc
  | _ => rfl

theorem step_submit_of_closed {x : Scene} (h : x.session.worker.isOpen = false) (label input : Text)
    (callback : Callback) :
    x.step (.submit label input callback) = (.ticket (.error .workerClosed), x) := by
  simp only [step, Session.step, submit, Worker.submit, h]
  rfl

theorem serves_start (p : Parser) (callers : Table Environment) (draws : List Nat) :
    (start p callers draws).Serves p Ledger.blank :=
  Session.serves_start p callers draws

/-- How the jobs of a session are served that began as `fresh`: `s` is what the commands lead
to where jobs run in one go, and `x` where calls come between the moves of the thread. In the
order in which they were submitted the jobs are done one after the other: a job starts, its
listener is called with what the job comes to if that is a text, and this is its result.
Between the moves the whole session is one that the same calls lead to with jobs in one go.
All jobs get done if the thread moves often enough. After closing, a submission is refused and
changes nothing, and all else happens as before. -/
structure ServedInOrder (p : Parser) (fresh : Session) (cs : List Command) (jobs : List Job) (s : Session)
    (x : Scene) : Prop where
  numbered : jobs.map (·.number) = List.range jobs.length
  inOneGo : ∃ done, jobs = done ++ s.worker.waiting ∧ s.worker.history = done.flatMap (jobEvents p)
  inMoves : ∃ done begun, jobs = done ++ x.turn.jobs ++ x.session.worker.waiting ∧
    x.session.worker.history = done.flatMap (jobEvents p) ++ begun ∧
    begun ++ x.turn.pending p = x.turn.jobs.flatMap (jobEvents p) ∧
    ∀ job ∈ done, job.callback ≠ .faulty →
      jobEvents p job = .started job :: (calls p job ++ [.ended job (completion p job)]) ∧
      x.session.worker.result? job.number = some (completion p job)
  alike : ∃ ds, (ds.filter fun c => !c.isWork) = (cs.filter fun c => !c.isWork) ∧ x.whole p = fresh.after ds
  served : ∃ n, ∀ more : List Command, n ≤ more.countP (·.isWork) →
    jobs.flatMap (jobEvents p) <+: (x.after more).session.worker.history
  refused : Command.close ∈ cs → ∀ label input callback,
    x.step (.submit label input callback) = (.ticket (.error .workerClosed), x)
  closed : ∀ c : Command, c.isSubmit = false → x.close.step c = ((x.step c).1, (x.step c).2.close)

theorem jobs_served_in_order (hp : p.IsLocal) (callers : Table Environment) (draws : List Nat)
    (cs : List Command) :
    ServedInOrder p (Session.start p callers draws) cs (Ledger.blank.after p cs).jobs
      ((Session.start p callers draws).after cs) ((start p callers draws).after cs) := by
  set jobs := (Ledger.blank.after p cs).jobs
  set s := (Session.start p callers draws).after cs
  set x := (start p callers draws).after cs
  have hserves : x.Serves p (Ledger.blank.after p cs) := serves_after hp (serves_start p callers draws) cs
  have hinOneGo : ∃ done, jobs = done ++ s.worker.waiting ∧ s.worker.history = done.flatMap (jobEvents p) := by
    obtain ⟨done, begun, hjobs, hhistory, hbegun⟩ :=
      (Session.serves_after hp (Session.serves_start p callers draws) cs).queue
    rw [List.append_nil, List.flatMap_nil] at hbegun
    exact ⟨done, by rw [← List.append_nil done]; exact hjobs, by rw [hhistory, hbegun, List.append_nil]⟩
  refine ⟨hserves.numbers, hinOneGo, ?_, ?_, all_served hp hserves, fun hclose => ?_, fun c => step_close x⟩
  · obtain ⟨done, begun, hjobs, hhistory, hbegun⟩ := hserves.queue
    exact ⟨done, begun, hjobs, hhistory, hbegun, fun job hjob hcallback =>
      ⟨jobEvents_eq p hcallback, result?_of_done hserves hjobs hhistory hjob hcallback⟩⟩
  · obtain ⟨ds, hcalls, hwhole⟩ := exists_in_one_go hp (x := start p callers draws) rfl cs
    exact ⟨ds, hcalls, hwhole⟩
  · exact step_submit_of_closed (hserves.isOpen.trans (Ledger.closed_of_mem p _ hclose))

/-- The second of two jobs is submitted, and the worker closed, while the first one runs;
the second one aborts. -/
theorem jobs_served_in_order_sample :
    let input := "\x7bset:k|2\x7d\x7bget:k\x7d".toList
    let cs : List Command :=
      [.put ['k'] (.int 1), .submit [] input .listen, .work, .clear, .submit [] "\x7bfail:no\x7d".toList .listen,
       .close, .work, .put ['k'] (.int 5), .work, .work, .work, .work, .work]
    let x := (start variablesParser Table.empty []).after cs
    let first : Job := ⟨0, [], input, Table.empty.insert ['k'] (.int 1), .listen⟩
    let second : Job := ⟨1, [], "\x7bfail:no\x7d".toList, Table.empty, .listen⟩
    variablesParser.IsLocal ∧ first.callback ≠ .faulty ∧ Command.close ∈ cs ∧
      x.turn.jobs = [second] ∧ x.session.worker.result? 0 = some (completion variablesParser first) ∧
      x.step (.submit [] input .silent) = (.ticket (.error .workerClosed), x) ∧
      (x.close.step .clear).2 = (x.step .clear).2.close ∧
      ∃ more, [first, second].flatMap (jobEvents variablesParser) <+: (x.after more).session.worker.history := by
  intro input cs x first second
  have h := jobs_served_in_order variablesParser_isLocal Table.empty [] cs
  obtain ⟨done, begun, hjobs, -, -, hdone⟩ := h.inMoves
  obtain ⟨n, hserved⟩ := h.served
  have hclose : Command.close ∈ cs := by simp [cs]
  have hrunning : x.turn.jobs = [second] := rfl
  have hsplit : [first] ++ [second] = done ++ [second] ++ [] := hjobs
  have hfirst : first ∈ done := by
    rw [List.append_nil] at hsplit
    rw [← List.append_cancel_right hsplit]
    exact List.mem_singleton_self first
  have hlistens : first.callback ≠ .faulty := nofun
  exact ⟨variablesParser_isLocal, hlistens, hclose, hrunning, (hdone first hfirst hlistens).2,
    h.refused hclose [] input .silent, congrArg Prod.snd (h.closed .clear rfl), List.replicate n .work,
    hserved _ (by simp [List.countP_replicate, Command.isWork])⟩

end Scene

end TagExpander.Session
