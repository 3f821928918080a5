import TagExpander.Parser
import TagExpander.Proofs.Course

/-! Local handlers: they act on nothing but the environment that they are called with,
be it by an expansion inside of it. An expansion by local handlers depends on its
environment only, and a run on an environment of its own leaves the shared one as it
was. -/

namespace TagExpander

variable {α β : Type}

namespace Procedure

/-- The procedure takes no random numbers, and asks the parser at most to expand in the
environment at hand. -/
def IsLocal : Procedure α → Prop
  | done _ => True
  | stop _ => True
  | read k => ∀ e, (k e).IsLocal
  | write _ k => k.IsLocal
  | draws _ => False
  | leave _ _ => False
  | ask (.parseHere _) k => ∀ t, (k t).IsLocal
  | ask _ _ => False
  | note _ _ k => k.IsLocal
  | measure k => ∀ room, (k room).IsLocal

theorem isLocal_bind {p : Procedure α} {f : α → Procedure β} (hp : p.IsLocal)
    (hf : ∀ a, (f a).IsLocal) : (p >>= f).IsLocal := by
  change (p.bind f).IsLocal
  induction p with
  | done a => exact hf a
  | stop s => trivial
  | read k ih => exact fun e => ih e (hp e)
  | write e k ih => exact ih hp
  | draws k _ => exact absurd hp id
  | leave rest k _ => exact absurd hp id
  | ask r k ih =>
    cases r with
    | parseHere input => exact fun t => ih t (hp t)
    | put _ _ => exact absurd hp id
    | clear => exact absurd hp id
    | parse _ => exact absurd hp id
  | note n v k ih => exact ih hp
  | measure k ih => exact fun room => ih room (hp room)

theorem isLocal_orFault (x : Except Fault α) : (orFault x).IsLocal := by
  cases x <;> trivial

theorem isLocal_shown (v : Value) : (shown v).IsLocal :=
  fun _ => isLocal_orFault _

end Procedure

namespace World

/-- What a run keeps that acts on its environment only: the random numbers, whether
the run has an environment of its own, and in that case the shared one. -/
structure Keeps (w w' : World) : Prop where
  draws : w'.draws = w.draws
  own : w'.own.isSome = w.own.isSome
  shared : w.own.isSome → w'.shared = w.shared

theorem Keeps.refl (w : World) : Keeps w w := ⟨rfl, rfl, fun _ => rfl⟩

theorem Keeps.trans {a b c : World} (h₁ : Keeps a b) (h₂ : Keeps b c) : Keeps a c :=
  ⟨h₂.draws.trans h₁.draws, h₂.own.trans h₁.own,
    fun h => (h₂.shared (h₁.own ▸ h)).trans (h₁.shared h)⟩

theorem keeps_setHere (w : World) (e : Environment) : Keeps w (w.setHere e) := by
  obtain ⟨shared, own, draws, diary, records⟩ := w
  cases own with
  | none => exact ⟨rfl, rfl, fun h => absurd h (by simp)⟩
  | some _ => exact ⟨rfl, rfl, fun _ => rfl⟩

@[simp] theorem here_setHere (w : World) (e : Environment) : (w.setHere e).here = e := by
  obtain ⟨shared, own, draws, diary, records⟩ := w
  cases own <;> rfl

/-- The action depends on the environment at hand only, and it changes nothing else. -/
def ActsHere (act : World → α × World) : Prop :=
  ∀ w, w.Keeps (act w).2 ∧
    ∀ w', w.here = w'.here → (act w).1 = (act w').1 ∧ (act w).2.here = (act w').2.here

theorem actsHere_pure (a : α) : ActsHere fun w => (a, w) :=
  fun w => ⟨Keeps.refl w, fun _ h => ⟨rfl, h⟩⟩

theorem actsHere_bind {act : World → α × World} {next : α → World → β × World} (hact : ActsHere act)
    (hnext : ∀ a, ActsHere (next a)) : ActsHere fun w => next (act w).1 (act w).2 := by
  intro w
  obtain ⟨hkeeps, hcongr⟩ := hact w
  obtain ⟨hkeeps', hcongr'⟩ := hnext (act w).1 (act w).2
  refine ⟨hkeeps.trans hkeeps', fun w' h => ?_⟩
  obtain ⟨hanswer, hhere⟩ := hcongr w' h
  dsimp only
  rw [← hanswer]
  exact hcongr' _ hhere

theorem ActsHere.map {act : World → α × World} (h : ActsHere act) (f : α → β) :
    ActsHere fun w => (f (act w).1, (act w).2) := fun w =>
  ⟨(h w).1, fun w' hw => ⟨congrArg f ((h w).2 w' hw).1, ((h w).2 w' hw).2⟩⟩

end World

open World

def Procedure.resume (server : Server) (k : Text → Procedure α) :
    Except Fault Text → World → Except Stop α × World
  | .ok t, w => (k t).perform server w
  | .error cause, w => (.error (.fault cause), w)

theorem Procedure.perform_ask (server : Server) (r : Request) (k : Text → Procedure α) (w : World) :
    (ask r k).perform server w = resume server k (server.respond r w).1 (server.respond r w).2 := by
  rw [perform]
  rcases server.respond r w with ⟨_ | _, _⟩ <;> rfl

/-- A local procedure acts on the environment at hand, if the parser does so where it is
asked to expand in it. -/
theorem Procedure.actsHere_perform {p : Procedure α} (hp : p.IsLocal) {server : Server}
    (hserver : ∀ input, ActsHere (server.respond (.parseHere input))) : ActsHere (p.perform server) := by
  induction p with
  | done a => exact actsHere_pure _
  | stop s => exact actsHere_pure _
  | read k ih =>
    refine fun w => ⟨(ih w.here (hp w.here) w).1, fun w' h => ?_⟩
    simp only [perform, ← h]
    exact (ih w.here (hp w.here) w).2 w' h
  | write e k ih =>
    intro w
    obtain ⟨hkeeps, hcongr⟩ := ih hp (w.setHere e)
    exact ⟨(keeps_setHere w e).trans hkeeps, fun w' _ => hcongr (w'.setHere e) (by simp)⟩
  | draws k _ => exact absurd hp id
  | leave rest k _ => exact absurd hp id
  | ask r k ih =>
    cases r with
    | parseHere input =>
      have hnext (answer : Except Fault Text) : ActsHere (resume server k answer) := by
        cases answer with
        | ok t => exact ih t (hp t)
        | error cause => exact actsHere_pure _
      convert actsHere_bind (hserver input) hnext using 2 with w
      rw [perform_ask]
    | put _ _ => exact absurd hp id
    | clear => exact absurd hp id
    | parse _ => exact absurd hp id
  | note n v k ih =>
    intro w
    obtain ⟨hkeeps, hcongr⟩ := ih hp { w with diary := w.diary ++ [(n, v)] }
    exact ⟨⟨hkeeps.draws, hkeeps.own, hkeeps.shared⟩, fun w' h => hcongr { w' with diary := _ } h⟩
  | measure k ih => exact ih server.room (hp server.room)

theorem Procedure.actsHere_act {h : Procedure Value} (hh : h.IsLocal) {server : Server}
    (hserver : ∀ input, ActsHere (server.respond (.parseHere input))) : ActsHere (h.act server) :=
  (actsHere_perform hh hserver).map _

theorem Table.mem_of_get? {t : Table α} {k : Text} {v : α} (h : t.get? k = some v) :
    ∃ k', (k', v) ∈ t.entries := by
  unfold Table.get? at h
  generalize t.entries = es at h ⊢
  induction es with
  | nil => cases h
  | cons e r ih =>
    rw [Table.seek] at h
    split_ifs at h with hk
    · cases h
      exact ⟨e.1, List.mem_cons_self⟩
    · obtain ⟨k', hmem⟩ := ih h
      exact ⟨k', List.mem_cons_of_mem _ hmem⟩

theorem Registry.action?_map (reg : Registry α) (f : α → β) (call : Call) :
    action? (reg.map (·.map f)) call = (reg.action? call).map f := by
  unfold Registry.action?
  rw [Table.get?_map]
  cases reg.get? call.name with
  | none => rfl
  | some m => exact Method.action?_map _ m _

namespace Parser

def IsLocal (p : Parser) : Prop :=
  ∀ call handler, p.registry.action? call = some handler → handler.IsLocal

theorem isLocal_of_forms {p : Parser} (h : ∀ e ∈ p.registry.entries, ∀ params handler,
    e.2.action? params = some handler → handler.IsLocal) : p.IsLocal := by
  intro call handler hcall
  obtain ⟨m, hm, hact⟩ := Option.bind_eq_some_iff.1 hcall
  obtain ⟨k, hmem⟩ := Table.mem_of_get? hm
  exact h _ hmem call.params handler hact

def outcome (expand : Text → World → Outcome World) (input : Text) (w : World) : Except Fault Text × World :=
  ((expand input w).answer, (expand input w).state)

theorem actsHere_dispatch {p : Parser} {f : Handler → Action World}
    (h : ∀ call handler, p.registry.action? call = some handler → ActsHere (f handler)) (contents : Text) :
    ActsHere (Expansion.dispatch (p.registry.map (·.map f)) contents) := by
  unfold Expansion.dispatch
  rw [Registry.action?_map]
  cases hact : p.registry.action? (Call.ofContents contents) with
  | none => exact actsHere_pure _
  | some handler => exact h _ handler hact

theorem actsHere_expandBy (p : Parser) {acts : Registry (Action World)}
    (h : ∀ contents, ActsHere (Expansion.dispatch acts contents)) (input : Text) :
    ActsHere (outcome (p.expandBy acts) input) := by
  intro w
  have hsim : Expansion.Simulates (fun x y : World => x.here = y.here ∧ w.Keeps x) acts acts := by
    intro contents x y ⟨hxy, hx⟩
    obtain ⟨hkeeps, hcongr⟩ := h contents x
    exact ⟨(hcongr y hxy).1, (hcongr y hxy).2, hx.trans hkeeps⟩
  have hrun (w' : World) (hw : w.here = w'.here) :=
    Expansion.run_simulates hsim p.limits input (show w.here = w'.here ∧ w.Keeps w from ⟨hw, Keeps.refl w⟩)
  refine ⟨⟨(hrun w rfl).2.2.draws, (hrun w rfl).2.2.own, (hrun w rfl).2.2.shared⟩, fun w' hw => ?_⟩
  obtain ⟨hending, hhere, -⟩ := hrun w' hw
  exact ⟨congrArg (fun ending => (Expansion.answer p.limits ending).1) hending, hhere⟩

theorem actsHere_expandWithin {p : Parser} (hp : p.IsLocal) (depth : Nat) (input : Text) :
    ActsHere (outcome (p.expandWithin depth) input) := by
  induction depth generalizing input with
  | zero => exact actsHere_expandBy p (actsHere_dispatch fun _ _ _ => actsHere_pure _) input
  | succ depth ih =>
    exact actsHere_expandBy p
      (actsHere_dispatch fun call handler h => Procedure.actsHere_act (hp call handler h) ih) input

def outermost (p : Parser) : Registry (Action World) :=
  p.actions ⟨roomFor maxDepth, respond (p.expandWithin (maxDepth - 1))⟩

theorem expand_eq_expandBy (p : Parser) : p.expand = p.expandBy p.outermost := rfl

theorem actsHere_outermost {p : Parser} (hp : p.IsLocal) (contents : Text) :
    ActsHere (Expansion.dispatch p.outermost contents) :=
  actsHere_dispatch (fun call handler h =>
    Procedure.actsHere_act (hp call handler h) (actsHere_expandWithin hp (maxDepth - 1))) contents

/-- The answer of an expansion on an environment, and the environment it leaves. -/
def expansion (p : Parser) (e : Environment) (input : Text) : Except Fault Text × Environment :=
  let out := p.expand input (World.ofEnvironment e [])
  (out.answer, out.state.here)

/-- An expansion by local handlers depends on the environment at hand only, and keeps
the rest of the world. -/
theorem expand_local {p : Parser} (hp : p.IsLocal) (input : Text) (w : World) :
    (p.expand input w).answer = (p.expansion w.here input).1 ∧
      (p.expand input w).state.here = (p.expansion w.here input).2 ∧ w.Keeps (p.expand input w).state := by
  rw [expansion, expand_eq_expandBy]
  obtain ⟨hkeeps, hcongr⟩ := actsHere_expandBy p (actsHere_outermost hp) input w
  obtain ⟨hanswer, hhere⟩ := hcongr (World.ofEnvironment w.here []) rfl
  exact ⟨hanswer, hhere, hkeeps⟩

end Parser

end TagExpander
