import TagExpander.Procedure
import Mathlib

/-! What handlers do to the environments, told in order through all runs that nest. A
telling is true if whatever is read is what the deeds before have left, and if the deeds
together leave what is there at the end. How runs nest, and how far a stop reaches, is
said by the forms that a telling can take. -/

namespace TagExpander

/-- Which environment a run works on: the shared one, or one of its own. -/
inductive Place where
  | shared
  | own
deriving DecidableEq

/-- A handler reads or writes the environment that it was called with, or asks the parser
to write the shared one. A run is entered, and left with an answer. A handler stops. -/
inductive Deed where
  | saw (place : Place) (e : Environment)
  | wrote (place : Place) (e : Environment)
  | put (key : Text) (v : Value)
  | cleared
  | entered (place : Place) (input : Text)
  | left (answer : Text)
  | aborted (message : Text)
  | faulted (cause : Fault)

namespace Deed

def ofStop : Stop → Deed
  | .abort message => .aborted message
  | .fault cause => .faulted cause

def isOnShared : Deed → Bool
  | .saw place _ => place = .shared
  | .wrote place _ => place = .shared
  | _ => true

/-- Reads or writes in a run, other than runs inside of it. -/
def IsAccess (place : Place) : Deed → Prop
  | .saw here _ => here = place
  | .wrote here _ => here = place
  | .put _ _ | .cleared => True
  | _ => False

end Deed

structure Stores where
  shared : Environment
  own : Option Environment

namespace Stores

def after (s : Stores) : Deed → Stores
  | .wrote .shared e => { s with shared := e }
  | .wrote .own e => { s with own := some e }
  | .put key v => { s with shared := s.shared.insert key v }
  | .cleared => { s with shared := Table.empty }
  | _ => s

def Shows (s : Stores) : Deed → Prop
  | .saw .shared e => s.shared = e
  | .saw .own e => s.own = some e
  | _ => True

end Stores

/-- The deeds, one after the other, lead from stores to others, and all that is read on
the way is there. -/
def Replays : Stores → List Deed → Stores → Prop
  | s, [], t => s = t
  | s, d :: ds, t => s.Shows d ∧ Replays (s.after d) ds t

theorem replays_append {s t u : Stores} {a b : List Deed} (ha : Replays s a t) (hb : Replays t b u) :
    Replays s (a ++ b) u := by
  induction a generalizing s with
  | nil => exact (show s = t from ha) ▸ hb
  | cons d a ih => exact ⟨ha.1, ih ha.2⟩

/-- Deeds on the shared environment lead to the same whether there is another one or not. -/
theorem Replays.frame {s t : Stores} {ds : List Deed} (h : Replays s ds t)
    (hshared : ∀ d ∈ ds, d.isOnShared = true) (own : Option Environment) :
    Replays { s with own := own } ds { t with own := own } := by
  induction ds generalizing s with
  | nil => exact congrArg (fun s : Stores => { s with own := own }) h
  | cons d ds ih =>
    have hd := hshared d List.mem_cons_self
    have hrest := ih h.2 fun d hd => hshared d (List.mem_cons_of_mem _ hd)
    refine ⟨?_, ?_⟩
    · have hshows := h.1
      cases d with
      | saw place e =>
        cases place with
        | shared => exact hshows
        | own => cases hd
      | _ => trivial
    · cases d with
      | wrote place e =>
        cases place with
        | shared => exact hrest
        | own => cases hd
      | _ => exact hrest

/-- Deeds in a run that did not stop. A run inside of it is on the same environment or on
the shared one, and comes to an end, be it that a handler has aborted it; what it is left
with is then the message. -/
inductive Settled : Place → List Deed → Prop
  | nil {place : Place} : Settled place []
  | access {place : Place} {d : Deed} {r : List Deed} (h : d.IsAccess place) (rest : Settled place r) :
      Settled place (d :: r)
  | nested {place inside : Place} {input answer : Text} {a r : List Deed}
      (h : inside = place ∨ inside = .shared) (run : Settled inside a) (rest : Settled place r) :
      Settled place (.entered inside input :: (a ++ .left answer :: r))
  | abandoned {place inside : Place} {input message : Text} {a r : List Deed}
      (h : inside = place ∨ inside = .shared) (run : Settled inside a) (rest : Settled place r) :
      Settled place (.entered inside input :: (a ++ .aborted message :: .left message :: r))

/-- Deeds in a run that a fault has ended. It was raised in this run, or in one inside of
it that was not left any more; in either case nothing comes after it. -/
inductive Broken (cause : Fault) : Place → List Deed → Prop
  | here {place : Place} {a : List Deed} (run : Settled place a) : Broken cause place (a ++ [.faulted cause])
  | inside {place inside : Place} {input : Text} {a b : List Deed} (h : inside = place ∨ inside = .shared)
      (before : Settled place a) (run : Broken cause inside b) :
      Broken cause place (a ++ .entered inside input :: b)

/-- The form of the deeds of a run, or a part of it, that came to this stop or to none. -/
def Ends (place : Place) (deeds : List Deed) : Option Stop → Prop
  | none => Settled place deeds
  | some (.abort message) => ∃ a, Settled place a ∧ deeds = a ++ [.aborted message]
  | some (.fault cause) => Broken cause place deeds

theorem Settled.append {place : Place} {a b : List Deed} (ha : Settled place a) (hb : Settled place b) :
    Settled place (a ++ b) := by
  induction ha with
  | nil => exact hb
  | access h _ ih => exact .access h (ih hb)
  | nested h run _ _ ih =>
    rw [List.cons_append, List.append_assoc, List.cons_append]
    exact .nested h run (ih hb)
  | abandoned h run _ _ ih =>
    rw [List.cons_append, List.append_assoc, List.cons_append, List.cons_append]
    exact .abandoned h run (ih hb)

theorem Broken.append {cause : Fault} {place : Place} {a b : List Deed} (ha : Settled place a)
    (hb : Broken cause place b) : Broken cause place (a ++ b) := by
  cases hb with
  | here run =>
    rw [← List.append_assoc]
    exact .here (ha.append run)
  | inside h before run =>
    rw [← List.append_assoc]
    exact .inside h (ha.append before) run

theorem Ends.append {place : Place} {a b : List Deed} {stop : Option Stop} (ha : Settled place a)
    (hb : Ends place b stop) : Ends place (a ++ b) stop := by
  match stop with
  | none => exact ha.append hb
  | some (.abort message) =>
    obtain ⟨b, hb, rfl⟩ := hb
    exact ⟨a ++ b, ha.append hb, (List.append_assoc a b _).symm⟩
  | some (.fault cause) => exact Broken.append ha hb

theorem ends_ofStop (place : Place) (stop : Stop) : Ends place [Deed.ofStop stop] (some stop) := by
  cases stop with
  | abort message => exact ⟨[], .nil, rfl⟩
  | fault cause => exact .here .nil

namespace World

def stores (w : World) : Stores := ⟨w.shared, w.own⟩

def place (w : World) : Place :=
  if w.own.isSome then .own else .shared

theorem place_congr {w w' : World} (h : w'.own.isSome = w.own.isSome) : w'.place = w.place := by
  unfold place
  rw [h]

theorem shows_here (w : World) : w.stores.Shows (.saw w.place w.here) := by
  obtain ⟨shared, own, draws, diary, records⟩ := w
  cases own <;> rfl

theorem stores_setHere (w : World) (e : Environment) :
    (w.setHere e).stores = w.stores.after (.wrote w.place e) := by
  obtain ⟨shared, own, draws, diary, records⟩ := w
  cases own <;> rfl

theorem own_after {w : World} {d : Deed} (hd : d.IsAccess w.place) :
    (w.stores.after d).own.isSome = w.own.isSome := by
  cases d with
  | wrote place e =>
    obtain rfl : place = w.place := hd
    obtain ⟨shared, own, draws, diary, records⟩ := w
    cases own <;> rfl
  | _ => rfl

theorem isOnShared_of_isAccess {w : World} (h : w.own = none) {d : Deed} (hd : d.IsAccess w.place) :
    d.isOnShared = true := by
  have hplace : w.place = .shared := by simp [place, h]
  rw [hplace] at hd
  cases d with
  | saw here e => exact decide_eq_true hd
  | wrote here e => exact decide_eq_true hd
  | _ => rfl

end World

/-- The deeds are what happened to the environments from one world to another, where it
came to this stop or to none. A run keeps to its environment. -/
structure Told (w w' : World) (stop : Option Stop) (deeds : List Deed) : Prop where
  replays : Replays w.stores deeds w'.stores
  own : w'.own.isSome = w.own.isSome
  shared : w.own = none → ∀ d ∈ deeds, d.isOnShared = true
  ends : Ends w.place deeds stop

namespace Told

variable {w w' w'' : World} {a b : List Deed} {stop : Option Stop}

theorem append (ha : Told w w' none a) (hb : Told w' w'' stop b) : Told w w'' stop (a ++ b) where
  replays := replays_append ha.replays hb.replays
  own := hb.own.trans ha.own
  shared := fun h d hd => by
    have hown : w'.own = none := by
      have := ha.own
      rwa [h, Option.isSome_none, Option.isSome_eq_false_iff, Option.isNone_iff_eq_none] at this
    exact (List.mem_append.1 hd).elim (ha.shared h d) (hb.shared hown d)
  ends := Ends.append ha.ends (World.place_congr ha.own ▸ hb.ends)

theorem nothing (w w' : World) (h : w'.stores = w.stores) : Told w w' none [] where
  replays := h.symm
  own := congrArg (fun s : Stores => s.own.isSome) h
  shared := fun _ _ hd => absurd hd List.not_mem_nil
  ends := .nil

theorem stops (w : World) (stop : Stop) : Told w w (some stop) [Deed.ofStop stop] where
  replays := by cases stop <;> exact ⟨trivial, rfl⟩
  own := rfl
  shared := fun _ d hd => by
    rw [List.mem_singleton.1 hd]
    cases stop <;> rfl
  ends := ends_ofStop w.place stop

theorem access {d : Deed} (hd : d.IsAccess w.place) (hshows : w.stores.Shows d)
    (hafter : w'.stores = w.stores.after d) : Told w w' none [d] where
  replays := ⟨hshows, hafter.symm⟩
  own := (congrArg (fun s : Stores => s.own.isSome) hafter).trans (World.own_after hd)
  shared := fun h e he => by
    rw [List.mem_singleton.1 he]
    exact World.isOnShared_of_isAccess h hd
  ends := .access hd .nil

theorem sees (w : World) : Told w w none [.saw w.place w.here] :=
  access rfl w.shows_here rfl

theorem writes (w : World) (e : Environment) : Told w (w.setHere e) none [.wrote w.place e] :=
  access rfl trivial (w.stores_setHere e)

theorem puts (w : World) (key : Text) (v : Value) :
    Told w { w with shared := w.shared.insert key v } none [.put key v] :=
  access trivial trivial rfl

theorem clears (w : World) : Told w { w with shared := Table.empty } none [.cleared] :=
  access trivial trivial rfl

end Told

end TagExpander
