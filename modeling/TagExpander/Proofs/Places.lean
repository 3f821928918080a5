import TagExpander.Shelf
import Mathlib

/-! Where the values of environments are kept. Storing a value leaves what was stored before
as it is, and a list that grows at its place is seen wherever this place is referred to.
Every change goes on in one of few ways, and rebinds entries in one environment at most. -/

namespace TagExpander.Shelf

def bound? (s : Shelf) (name key : Text) : Option Stored :=
  (s.environments.get? name).bind (·.get? key)

def value? (s : Shelf) (name key : Text) : Option Value :=
  (s.view? name).bind (·.get? key)

def afterAll (s : Shelf) (cs : List Change) : Shelf :=
  cs.foldl after s

def Change.target? : Change → Option Text
  | .put name _ _ => some name
  | .share name _ _ _ => some name
  | .clear name => some name
  | .copy _ copyName => some copyName
  | .append _ _ _ => none

def Lacks (s : Shelf) : Change → Prop
  | .put name _ _ => s.view? name = none
  | .share name _ source sourceKey => s.view? name = none ∨ s.value? source sourceKey = none
  | .clear name => s.view? name = none
  | .copy name _ => s.view? name = none
  | .append name key _ => s.value? name key = none

variable {s : Shelf} {name key : Text}

theorem value?_eq (s : Shelf) (name key : Text) : s.value? name key = (s.bound? name key).map s.valueOf := by
  unfold value? view? bound?
  cases s.environments.get? name with
  | none => rfl
  | some t => exact Table.get?_map s.valueOf t key

theorem view?_eq_none_iff : s.view? name = none ↔ s.environments.get? name = none :=
  Option.map_eq_none_iff

theorem value?_eq_none_iff : s.value? name key = none ↔ s.bound? name key = none := by
  rw [value?_eq, Option.map_eq_none_iff]

theorem environments_replace (s : Shelf) (name other : Text) (t : Table Stored) :
    (s.replace name t).environments.get? other = if other = name then some t else s.environments.get? other :=
  Table.get?_insert s.environments name other t

theorem bound?_replace (s : Shelf) (name other key : Text) (t : Table Stored) :
    (s.replace name t).bound? other key = if other = name then t.get? key else s.bound? other key := by
  rw [bound?, environments_replace]
  split_ifs <;> rfl

theorem valueOf_replace (s : Shelf) (name : Text) (t : Table Stored) : (s.replace name t).valueOf = s.valueOf := by
  funext x
  cases x <;> rfl

theorem view?_replace (s : Shelf) (name other : Text) (t : Table Stored) :
    (s.replace name t).view? other = if other = name then some (t.map s.valueOf) else s.view? other := by
  rw [view?, environments_replace, valueOf_replace]
  split_ifs <;> rfl

def Placed (s : Shelf) : Prop :=
  ∀ name key place, s.bound? name key = some (.shared place) → place < s.lists.length

/-- A list takes a place of its own, and any other value is stored as it is. -/
theorem store_cases (s : Shelf) (v : Value) :
    (∃ items, s.store v = (.shared s.lists.length, { s with lists := s.lists ++ [items] })) ∨
      s.store v = (.plain v, s) ∧ ∀ items, v ≠ .list items := by
  cases v with
  | list items => exact Or.inl ⟨items, rfl⟩
  | _ => exact Or.inr ⟨rfl, nofun⟩

theorem environments_store (s : Shelf) (v : Value) : (s.store v).2.environments = s.environments := by
  cases v <;> rfl

theorem valueOf_store_self (s : Shelf) (v : Value) : (s.store v).2.valueOf (s.store v).1 = v := by
  cases v with
  | list items => simp [store, valueOf]
  | _ => rfl

theorem valueOf_store {x : Stored} (hx : ∀ place, x = .shared place → place < s.lists.length) (v : Value) :
    (s.store v).2.valueOf x = s.valueOf x := by
  cases x with
  | plain w => cases v <;> rfl
  | shared place =>
    cases v with
    | list items => simp [store, valueOf, List.getElem?_append_left (hx place rfl)]
    | _ => rfl

theorem map_valueOf_store (h : s.Placed) {t : Table Stored} (ht : s.environments.get? name = some t) (v : Value) :
    t.map (s.store v).2.valueOf = t.map s.valueOf := by
  refine Table.map_congr fun key x hx => valueOf_store (fun place hplace => ?_) v
  exact h name key place (by simp [bound?, ht, hx, hplace])

theorem view?_store (h : s.Placed) (v : Value) (name : Text) : (s.store v).2.view? name = s.view? name := by
  rw [view?, view?, environments_store]
  cases ht : s.environments.get? name with
  | none => rfl
  | some t => exact congrArg some (map_valueOf_store h ht v)

def grow (s : Shelf) (place : Nat) (v : Value) : Shelf :=
  { s with lists := s.lists.modify place (· ++ [v]) }

theorem valueOf_grow_self {place : Nat} {items : List Value} (h : s.lists[place]? = some items) (v : Value) :
    (s.grow place v).valueOf (.shared place) = .list (items ++ [v]) := by
  simp [grow, valueOf, h]

theorem valueOf_grow {place : Nat} {x : Stored} (h : x ≠ .shared place) (v : Value) :
    (s.grow place v).valueOf x = s.valueOf x := by
  cases x with
  | plain w => rfl
  | shared p =>
    have hp : place ≠ p := fun e => h (congrArg Stored.shared e.symm)
    simp [grow, valueOf, hp]

inductive Does (s : Shelf) : Change → Except Fault Shelf → Prop
  | put {name key : Text} {v : Value} {t : Table Stored} (here : s.environments.get? name = some t) :
      Does s (.put name key v) (.ok ((s.store v).2.replace name (t.insert key (s.store v).1)))
  | share {name key source sourceKey : Text} {t : Table Stored} {x : Stored}
      (here : s.environments.get? name = some t) (given : s.bound? source sourceKey = some x) :
      Does s (.share name key source sourceKey) (.ok (s.replace name (t.insert key x)))
  | clear {name : Text} {t : Table Stored} (here : s.environments.get? name = some t) :
      Does s (.clear name) (.ok (s.replace name Table.empty))
  | copy {name copyName : Text} {t : Table Stored} (here : s.environments.get? name = some t) :
      Does s (.copy name copyName) (.ok (s.replace copyName t))
  | append {name key : Text} {v : Value} {place : Nat} (here : s.bound? name key = some (.shared place)) :
      Does s (.append name key v) (.ok (s.grow place v))
  | absent {c : Change} (lacks : s.Lacks c) : Does s c (.error .missingKey)
  | plain {name key : Text} {v w : Value} (here : s.bound? name key = some (.plain w)) :
      Does s (.append name key v) (.error .missingMember)

theorem does_apply (s : Shelf) (c : Change) : s.Does c (s.apply c) := by
  cases c with
  | put name key v =>
    rw [apply, put]
    cases ht : s.environments.get? name with
    | none => exact .absent (view?_eq_none_iff.2 ht)
    | some t => exact .put ht
  | share name key source sourceKey =>
    rw [apply, share, find, ← bound?]
    cases ht : s.environments.get? name with
    | none => exact .absent (Or.inl (view?_eq_none_iff.2 ht))
    | some t =>
      cases hx : s.bound? source sourceKey with
      | none => exact .absent (Or.inr (value?_eq_none_iff.2 hx))
      | some x => exact .share ht hx
  | clear name =>
    rw [apply, clear]
    cases ht : s.environments.get? name with
    | none => exact .absent (view?_eq_none_iff.2 ht)
    | some t => exact .clear ht
  | copy name copyName =>
    rw [apply, copy]
    cases ht : s.environments.get? name with
    | none => exact .absent (view?_eq_none_iff.2 ht)
    | some t => exact .copy ht
  | append name key v =>
    rw [apply, append, ← bound?]
    rcases hx : s.bound? name key with _ | (w | place)
    · exact .absent (value?_eq_none_iff.2 hx)
    · exact .plain hx
    · exact .append hx

/-- What is left by a change with this result. -/
def kept (s : Shelf) : Except Fault Shelf → Shelf
  | .ok s' => s'
  | .error _ => s

/-- A change leaves the bindings of all environments alone but the one that it is about. -/
theorem environments_of_does {c : Change} {r : Except Fault Shelf} (hd : s.Does c r) (hc : c.target? ≠ some name) :
    (s.kept r).environments.get? name = s.environments.get? name := by
  have hreplace {s' : Shelf} {target : Text} (ht : some target ≠ some name) (t : Table Stored) :
      (s'.replace target t).environments.get? name = s'.environments.get? name := by
    rw [environments_replace, if_neg fun he => ht (congrArg some he.symm)]
  cases hd with
  | put => rw [kept, hreplace hc, environments_store]
  | share => exact hreplace hc _
  | clear => exact hreplace hc _
  | copy => exact hreplace hc _
  | append => rfl
  | absent => rfl
  | plain => rfl

theorem environments_after {ds : List Change} (hds : ∀ c ∈ ds, c.target? ≠ some name) :
    (s.afterAll ds).environments.get? name = s.environments.get? name := by
  induction ds generalizing s with
  | nil => rfl
  | cons c ds ih =>
    calc (s.afterAll (c :: ds)).environments.get? name
        = (s.after c).environments.get? name := ih fun d hd => hds d (List.mem_cons_of_mem _ hd)
      _ = s.environments.get? name := environments_of_does (does_apply s c) (hds c List.mem_cons_self)

end TagExpander.Shelf
