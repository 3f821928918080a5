import TagExpander.Library.Methods
import TagExpander.Proofs.Deeds
import TagExpander.Proofs.Locality
import TagExpander.Proofs.Reporting
import TagExpander.Recipe

/-! Handlers that call their parser back. Runs nest, and up to two environments are at
work in them. The deeds of all these runs are told in order, and the telling is true:
on each environment there is, at any depth, what was written to it before. -/

namespace TagExpander

variable {α : Type}

namespace Procedure

/-- The deeds of a procedure, where `inner` tells those that a request leads to. -/
def deeds (server : Server) (inner : Request → World → List Deed) : Procedure α → World → List Deed
  | done _, _ => []
  | stop s, _ => [Deed.ofStop s]
  | read k, w => .saw w.place w.here :: (k w.here).deeds server inner w
  | write e k, w => .wrote w.place e :: k.deeds server inner (w.setHere e)
  | draws k, w => (k w.draws).deeds server inner w
  | leave rest k, w => k.deeds server inner { w with draws := rest }
  | ask r k, w =>
    inner r w ++ match server.respond r w with
      | (.ok t, w') => (k t).deeds server inner w'
      | (.error _, _) => []
  | note n v k, w => k.deeds server inner { w with diary := w.diary ++ [(n, v)] }
  | measure k, w => (k server.room).deeds server inner w

def AsksNothing : Procedure α → Prop
  | done _ => True
  | stop _ => True
  | read k => ∀ e, (k e).AsksNothing
  | write _ k => k.AsksNothing
  | draws k => ∀ ns, (k ns).AsksNothing
  | leave _ k => k.AsksNothing
  | ask _ _ => False
  | note _ _ k => k.AsksNothing
  | measure k => ∀ room, (k room).AsksNothing

end Procedure

def Except.stop? : Except Stop α → Option Stop
  | .ok _ => none
  | .error s => some s

def Request.stop? : Except Fault Text → Option Stop
  | .ok _ => none
  | .error cause => some (.fault cause)

theorem Procedure.told_perform {server : Server} {inner : Request → World → List Deed}
    (hserver : ∀ r w, Told w (server.respond r w).2 (Request.stop? (server.respond r w).1) (inner r w))
    (h : Procedure α) (w : World) :
    Told w (h.perform server w).2 (Except.stop? (h.perform server w).1) (h.deeds server inner w) := by
  induction h generalizing w with
  | done a => exact Told.nothing w w rfl
  | stop s => exact Told.stops w s
  | read k ih => exact (Told.sees w).append (ih w.here w)
  | write e k ih => exact (Told.writes w e).append (ih (w.setHere e))
  | draws k ih => exact ih w.draws w
  | leave rest k ih => exact (Told.nothing w { w with draws := rest } rfl).append (ih _)
  | ask r k ih =>
    have hr := hserver r w
    rw [perform_ask, deeds]
    rcases hanswer : server.respond r w with ⟨cause | t, w'⟩ <;> rw [hanswer] at hr
    · rw [List.append_nil]
      exact hr
    · exact hr.append (ih t w')
  | note n v k ih => exact (Told.nothing w { w with diary := w.diary ++ [(n, v)] } rfl).append (ih _)
  | measure k ih => exact ih server.room w

/-- What stops a run at a marker with this reply: its method, or an answer that has no
text. -/
def Reply.stop? : Except Stop Answer → Option Stop
  | .error s => some s
  | .ok (.unwritable cause) => some (.fault cause)
  | .ok _ => none

def Reply.deeds : Except Stop Answer → List Deed
  | .ok (.unwritable cause) => [.faulted cause]
  | _ => []

def Procedure.actDeeds (server : Server) (inner : Request → World → List Deed) (h : Procedure Value) (w : World) :
    List Deed :=
  h.deeds server inner w ++ Reply.deeds (h.act server w).1

theorem Procedure.told_act {server : Server} {inner : Request → World → List Deed}
    (hserver : ∀ r w, Told w (server.respond r w).2 (Request.stop? (server.respond r w).1) (inner r w))
    (h : Procedure Value) (w : World) :
    Told w (h.act server w).2 (Reply.stop? (h.act server w).1) (h.actDeeds server inner w) := by
  have hperform := told_perform hserver h w
  unfold actDeeds act
  rcases hdone : h.perform server w with ⟨s | v, left⟩ <;> rw [hdone] at hperform
  · simpa only [Except.map, Reply.deeds, Reply.stop?, Except.stop?, List.append_nil] using hperform
  · rw [Except.map]
    cases v.answerIn server.room with
    | unwritable cause => exact hperform.append (Told.stops left (.fault cause))
    | _ => simpa only [Reply.deeds, Reply.stop?, Except.stop?, List.append_nil] using hperform

def Ending.stop? : Ending → Option Stop
  | .reached _ _ => none
  | .aborted _ message => some (.abort message)
  | .faulted cause => some (.fault cause)

theorem Ending.stop?_ofStop (contents : Text) (s : Stop) : (Ending.ofStop contents s).stop? = some s := by
  cases s <;> rfl

namespace Expansion

theorem stop?_substitute (reg : Registry (Action World)) (contents : Text) (w : World) :
    Except.stop? (substitute reg contents w).1 = Reply.stop? (dispatch reg contents w).1 := by
  unfold substitute
  rcases dispatch reg contents w with ⟨s | a, left⟩
  · rfl
  · cases a <;> rfl

theorem told_visits {reg : Registry (Action World)} {tell : Text → World → List Deed}
    (htell : ∀ contents w, Told w (dispatch reg contents w).2 (Reply.stop? (dispatch reg contents w).1)
      (tell contents w))
    {w left : World} {ending : Ending} {visits : List (Visit World)} (hchained : Chained reg left w visits)
    (hends : EndsBy reg ending visits) :
    Told w left ending.stop? (visits.flatMap fun v => tell v.contents v.state) := by
  induction visits generalizing w with
  | nil =>
    obtain ⟨halt, text, rfl⟩ := hends
    exact Told.nothing w left (congrArg World.stores hchained)
  | cons v visits ih =>
    obtain ⟨rfl, hrest⟩ := hchained
    have hv := htell v.contents v.state
    rw [← stop?_substitute] at hv
    rw [EndsBy] at hends
    rw [List.flatMap_cons]
    rcases hanswer : (substitute reg v.contents v.state).1 with s | new <;> rw [hanswer] at hv hends
    · obtain ⟨rfl, rfl⟩ := hends
      obtain rfl : left = _ := hrest
      rw [Ending.stop?_ofStop, List.flatMap_nil, List.append_nil]
      exact hv
    · exact hv.append (ih hrest hends)

end Expansion

namespace Parser

/-- How an answer that is not a fault is told to the one who asked. -/
def leaving : Except Fault Text → List Deed
  | .ok t => [.left t]
  | .error _ => []

/-- The deeds that a request leads to, where `inner` tells those of a run. -/
def requestDeeds (expand : Text → World → Outcome World) (inner : Text → World → List Deed) :
    Request → World → List Deed
  | .put k v, _ => [.put k v]
  | .clear, _ => [.cleared]
  | .parse s, w =>
    .entered .shared s :: (inner s { w with own := none } ++ leaving (expand s { w with own := none }).answer)
  | .parseHere s, w => .entered w.place s :: (inner s w ++ leaving (expand s w).answer)

def Answered (stop : Option Stop) (answer : Except Fault Text) : Prop :=
  match stop with
  | none => ∃ t, answer = .ok t
  | some (.abort message) => answer = .ok message
  | some (.fault cause) => answer = .error cause

/-- A run inside of another one ends with its answer; only a fault goes on. -/
theorem ends_nested {place inside : Place} (hinside : inside = place ∨ inside = .shared) {a : List Deed}
    {stop : Option Stop} (hrun : Ends inside a stop) {answer : Except Fault Text} (h : Answered stop answer)
    (input : Text) : Ends place (.entered inside input :: (a ++ leaving answer)) (Request.stop? answer) := by
  match stop with
  | none =>
    obtain ⟨t, rfl⟩ := h
    exact .nested hinside hrun .nil
  | some (.abort message) =>
    obtain ⟨a, ha, rfl⟩ := hrun
    obtain rfl : answer = .ok message := h
    rw [List.append_assoc]
    exact .abandoned hinside ha .nil
  | some (.fault cause) =>
    obtain rfl : answer = .error cause := h
    rw [leaving, List.append_nil]
    exact .inside hinside .nil hrun

theorem replays_nested {s t : Stores} {a : List Deed} (h : Replays s a t) (place : Place) (input : Text)
    (answer : Except Fault Text) : Replays s (.entered place input :: (a ++ leaving answer)) t := by
  refine ⟨trivial, replays_append h ?_⟩
  cases answer with
  | ok t => exact ⟨trivial, rfl⟩
  | error cause => rfl

theorem isOnShared_nested {a : List Deed} (h : ∀ d ∈ a, d.isOnShared = true) (place : Place) (input : Text)
    (answer : Except Fault Text) : ∀ d ∈ Deed.entered place input :: (a ++ leaving answer), d.isOnShared = true := by
  intro d hd
  rcases List.mem_cons.1 hd with rfl | hd
  · rfl
  rcases List.mem_append.1 hd with hd | hd
  · exact h d hd
  · cases answer with
    | ok t =>
      rw [List.mem_singleton.1 hd]
      rfl
    | error cause => cases hd

def RunsTold (expand : Text → World → Outcome World) (inner : Text → World → List Deed) : Prop :=
  ∀ s w, ∃ stop, Told w (expand s w).state stop (inner s w) ∧ Answered stop (expand s w).answer

theorem told_respond {expand : Text → World → Outcome World} {inner : Text → World → List Deed}
    (h : RunsTold expand inner) (r : Request) (w : World) :
    Told w (respond expand r w).2 (Request.stop? (respond expand r w).1) (requestDeeds expand inner r w) := by
  cases r with
  | put k v => exact Told.puts w k v
  | clear => exact Told.clears w
  | parse s =>
    obtain ⟨stop, htold, hanswer⟩ := h s { w with own := none }
    have hshared := htold.shared rfl
    have hnone : (expand s { w with own := none }).state.own = none := by simpa using htold.own
    have hreplays := htold.replays.frame hshared w.own
    exact ⟨replays_nested hreplays _ s _, rfl, fun _ => isOnShared_nested hshared _ s _,
      ends_nested (Or.inr rfl) htold.ends hanswer s⟩
  | parseHere s =>
    obtain ⟨stop, htold, hanswer⟩ := h s w
    exact ⟨replays_nested htold.replays _ s _, htold.own, fun hown => isOnShared_nested (htold.shared hown) _ s _,
      ends_nested (Or.inl rfl) htold.ends hanswer s⟩

theorem isOnShared_requestDeeds {expand : Text → World → Outcome World} {inner : Text → World → List Deed}
    (h : RunsTold expand inner) {r : Request} (hr : ∀ t, r ≠ .parseHere t) (w : World) :
    ∀ d ∈ requestDeeds expand inner r w, d.isOnShared = true := by
  cases r with
  | put k v => exact fun d hd => List.mem_singleton.1 hd ▸ rfl
  | clear => exact fun d hd => List.mem_singleton.1 hd ▸ rfl
  | parse t =>
    obtain ⟨_, htold, _⟩ := h t { w with own := none }
    exact isOnShared_nested (htold.shared rfl) _ t _
  | parseHere t => exact absurd rfl (hr t)

def deedsAt (p : Parser) (tell : Handler → World → List Deed) (contents : Text) (w : World) : List Deed :=
  match p.registry.action? (Call.ofContents contents) with
  | some handler => tell handler w
  | none => []

/-- The deeds of an expansion, those of the expansions inside of it included. Where there
is no room for a handler, it is a fault to call it. -/
def deedsWithin (p : Parser) : Nat → Text → World → List Deed
  | 0, s, w =>
    (p.expandWithin 0 s w).visits.flatMap fun v =>
      p.deedsAt (fun _ _ => [.faulted .nestedTooDeep]) v.contents v.state
  | depth + 1, s, w =>
    (p.expandWithin (depth + 1) s w).visits.flatMap fun v =>
      p.deedsAt (·.actDeeds ⟨roomFor (depth + 1), respond (p.expandWithin depth)⟩
        (requestDeeds (p.expandWithin depth) (p.deedsWithin depth))) v.contents v.state

theorem answered_answer (limits : Limits) (ending : Ending) :
    Answered ending.stop? (Expansion.answer limits ending).1 := by
  cases ending with
  | reached halt text => exact ⟨_, rfl⟩
  | aborted contents message => rfl
  | faulted cause => rfl

theorem told_expandBy (p : Parser) {f : Handler → Action World} {tell : Handler → World → List Deed}
    (h : ∀ handler w, Told w (f handler w).2 (Reply.stop? (f handler w).1) (tell handler w)) :
    RunsTold (p.expandBy (p.registry.map (·.map f))) fun s w =>
      (p.expandBy (p.registry.map (·.map f)) s w).visits.flatMap fun v => p.deedsAt tell v.contents v.state := by
  intro s w
  have hmarker (contents : Text) (w : World) :
      Told w (Expansion.dispatch (p.registry.map (·.map f)) contents w).2
        (Reply.stop? (Expansion.dispatch (p.registry.map (·.map f)) contents w).1)
        (p.deedsAt tell contents w) := by
    unfold Expansion.dispatch deedsAt
    rw [Registry.action?_map]
    cases p.registry.action? (Call.ofContents contents) with
    | none => exact Told.nothing w w rfl
    | some handler => exact h handler w
  obtain ⟨hreplays, hown, hshared, hends⟩ :=
    Expansion.told_visits hmarker (Expansion.run_chained _ p.limits s w) (Expansion.run_endsBy _ p.limits s w)
  exact ⟨_, ⟨hreplays, hown, hshared, hends⟩, answered_answer p.limits _⟩

theorem told_expandWithin (p : Parser) (depth : Nat) : RunsTold (p.expandWithin depth) (p.deedsWithin depth) := by
  induction depth with
  | zero => exact told_expandBy p fun _ w => Told.stops w (.fault .nestedTooDeep)
  | succ depth ih => exact told_expandBy p fun handler w => Procedure.told_act (told_respond ih) handler w

end Parser

theorem Procedure.shared_perform {h : Procedure α} (hh : h.AsksNothing) (server : Server) {w : World}
    (hown : w.own.isSome) : (h.perform server w).2.shared = w.shared := by
  induction h generalizing w with
  | done a => rfl
  | stop s => rfl
  | read k ih => exact ih w.here (hh w.here) hown
  | write e k ih =>
    have hkeeps := World.keeps_setHere w e
    exact (ih hh (hkeeps.own.trans hown)).trans (hkeeps.shared hown)
  | draws k ih => exact ih w.draws (hh w.draws) hown
  | leave rest k ih => exact ih (w := { w with draws := rest }) hh hown
  | ask r k _ => exact absurd hh id
  | note n v k ih => exact ih (w := { w with diary := w.diary ++ [(n, v)] }) hh hown
  | measure k ih => exact ih server.room (hh server.room) hown

namespace Parser

/-- A handler that asks for this expansion goes on with its answer, in the environment of
the expansion or, where that is the shared one, in any other. -/
def Resumes (expand : Text → World → Outcome World) (s : Text) (w : World) : Prop :=
  ∀ (room : Nat) (k : Text → Handler),
    let server : Server := ⟨room, respond expand⟩
    let out := expand s w
    (Procedure.ask (.parseHere s) k).perform server w = Procedure.resume server k out.answer out.state ∧
    (w.own = none → ∀ own : Option Environment,
      (Procedure.ask (.parse s) k).perform server { w with own := own } =
        Procedure.resume server k out.answer { out.state with own := own })

theorem resumes (expand : Text → World → Outcome World) (s : Text) (w : World) : Resumes expand s w := by
  intro room k server out
  refine ⟨Procedure.perform_ask server (.parseHere s) k w, fun hown own => ?_⟩
  have hw : { w with own := none } = w := by rw [← hown]
  rw [Procedure.perform_ask]
  simp only [server, respond, hw, out]

/-- What the deeds of an expansion tell of the environments. What is read is what was written
before, be it directly or through the parser, and what was written is there at the end. From
an expansion on the shared environment no other one is reached. Where something is asked of
the parser for the shared environment, another one is neither read nor written, and is left
as it was; a handler that asks for nothing leaves the shared one as it was. An abort ends the
innermost expansion, and its message is the answer with which the handler goes on that asked
for it; after a fault nothing happens at any depth. -/
structure TellsEnvironments (p : Parser) (depth : Nat) (s : Text) (w : World) : Prop where
  replays : Replays w.stores (p.deedsWithin depth s w) (p.expandWithin depth s w).state.stores
  alone : w.own = none → ∀ d ∈ p.deedsWithin depth s w, d.isOnShared = true
  request : ∀ r, (∀ t, r ≠ .parseHere t) → (respond (p.expandWithin depth) r w).2.own = w.own ∧
    ∀ d ∈ requestDeeds (p.expandWithin depth) (p.deedsWithin depth) r w, d.isOnShared = true
  quiet : w.own.isSome → ∀ (h : Handler) (server : Server), h.AsksNothing →
    (h.perform server w).2.shared = w.shared
  resumes : Resumes (p.expandWithin depth) s w
  ends : (∃ t, (p.expandWithin depth s w).answer = .ok t ∧
      (Settled w.place (p.deedsWithin depth s w) ∨
        ∃ a, Settled w.place a ∧ p.deedsWithin depth s w = a ++ [.aborted t])) ∨
    ∃ cause, (p.expandWithin depth s w).answer = .error cause ∧ Broken cause w.place (p.deedsWithin depth s w)

/-- The deeds tell the truth however deep expansions nest, and whatever their handlers do. -/
theorem environments_told (p : Parser) (depth : Nat) (s : Text) (w : World) : p.TellsEnvironments depth s w := by
  obtain ⟨stop, htold, hanswer⟩ := told_expandWithin p depth s w
  refine ⟨htold.replays, htold.shared, fun r hr => ⟨?_, isOnShared_requestDeeds (told_expandWithin p depth) hr w⟩,
    fun hown h server hh => Procedure.shared_perform hh server hown, resumes _ s w, ?_⟩
  · cases r with
    | parseHere t => exact absurd rfl (hr t)
    | _ => rfl
  · have hends := htold.ends
    match stop with
    | none =>
      obtain ⟨t, ht⟩ := hanswer
      exact Or.inl ⟨t, ht, Or.inl hends⟩
    | some (.abort message) => exact Or.inl ⟨message, hanswer, Or.inr hends⟩
    | some (.fault cause) => exact Or.inr ⟨cause, hanswer, hends⟩

/-- Two methods that expand a marker made of their parameters, one in the shared
environment and one in the environment at hand, and the library's methods for variables.
Nothing but the kernel should unfold it, as its runs are long. -/
@[irreducible] def nestingParser : Parser :=
  let nesting (request : Text → Request) (contents : Text) : Handler :=
    Recipe.nested request (.text (Marker.braced contents))
  ⟨(Registry.build (Library.texting ['p'] none (nesting .parse) :: Library.texting ['h'] none (nesting .parseHere) ::
    ["set".toList, "get".toList, "fail".toList].filterMap Library.method?)).1, Limits.default⟩

/-- A variable is set in an environment of its own and in the shared one, then read in
each of them; between that, an expansion inside aborts. -/
theorem environments_told_sample :
    let apart : World := ⟨Table.empty, some Table.empty, [], [], []⟩
    let input := "\x7bh:set:k|1\x7d\x7bp:set:k|2\x7d\x7bp:fail:no\x7d\x7bget:k\x7d\x7bh:p:get:k\x7d".toList
    let expand := nestingParser.expandWithin 3
    let deeds := nestingParser.deedsWithin 3 input apart
    (expand input apart).answer.toOption = some "no12".toList ∧
      Replays apart.stores deeds (expand input apart).state.stores ∧
      (∃ t, (expand input apart).answer = .ok t ∧
        (Settled .own deeds ∨ ∃ a, Settled .own a ∧ deeds = a ++ [.aborted t])) ∧
      (respond expand (.parse input) apart).2.own = some Table.empty ∧
      ((Library.set "k|3".toList).perform Server.absent apart).2.shared = Table.empty ∧
      ∀ d ∈ nestingParser.deedsWithin 3 input { apart with own := none }, d.isOnShared = true := by
  intro apart input expand deeds
  have htells := environments_told nestingParser 3 input apart
  have hanswer : (expand input apart).answer.toOption = some "no12".toList := by decide +kernel
  have hsettled : ∃ t, (expand input apart).answer = .ok t ∧
      (Settled .own deeds ∨ ∃ a, Settled .own a ∧ deeds = a ++ [.aborted t]) := by
    rcases htells.ends with h | ⟨cause, hcause, -⟩
    · exact h
    · rw [hcause] at hanswer
      cases hanswer
  have hset : (Library.set "k|3".toList).AsksNothing := fun _ => trivial
  exact ⟨hanswer, htells.replays, hsettled, (htells.request (.parse input) nofun).1,
    htells.quiet rfl _ Server.absent hset,
    (environments_told nestingParser 3 input { apart with own := none }).alone rfl⟩

end Parser

end TagExpander
