import TagExpander.Proofs.Places

/-! What environments share. Every value is put in some step, and a copy hands the steps of
its source's values on. Two entries hold the same list if and only if it was put in the same
step, so a list that grows in one of them grows in all of these and in no other. Bindings
are changed in one environment at a time. -/

namespace TagExpander.Shelf

def blank (names : List Text) : Shelf :=
  names.foldl (·.replace · Table.empty) empty

def reply (s : Shelf) (c : Change) : Except Fault Unit :=
  (s.apply c).map fun _ => ()

/-- For every environment there is, the step in which the value of each key was put. -/
structure Origins where
  entries : Text → Option (Text → Option Nat)

namespace Origins

def origin? (o : Origins) (name key : Text) : Option Nat :=
  (o.entries name).bind (· key)

def blank (names : List Text) : Origins :=
  ⟨fun name => if names.contains name then some fun _ => none else none⟩

def set (o : Origins) (name : Text) (e : Text → Option Nat) : Origins :=
  ⟨Function.update o.entries name (some e)⟩

theorem entries_set (o : Origins) (name other : Text) (e : Text → Option Nat) :
    (o.set name e).entries other = if other = name then some e else o.entries other :=
  Function.update_apply o.entries name (some e) other

/-- A value comes from the step that puts it. One that is shared or copied comes from the
step that its source comes from; the overwritten and the cleared ones are forgotten. -/
def step (o : Origins) (time : Nat) : Change → Origins
  | .put name key _ =>
    match o.entries name with
    | some e => o.set name (Function.update e key (some time))
    | none => o
  | .share name key source sourceKey =>
    match o.entries name, o.origin? source sourceKey with
    | some e, some i => o.set name (Function.update e key (some i))
    | _, _ => o
  | .clear name =>
    match o.entries name with
    | some _ => o.set name fun _ => none
    | none => o
  | .copy name copyName =>
    match o.entries name with
    | some e => o.set copyName e
    | none => o
  | .append _ _ _ => o

def after (o : Origins) : Nat → List Change → Origins
  | _, [] => o
  | time, c :: cs => (o.step time c).after (time + 1) cs

end Origins

/-- What a change comes to: the reply, and the environments after it beside those before.
An entry's origin is the step in which its value was put. -/
inductive Effect (s : Shelf) (o : Origins) : Change → Except Fault Unit → Shelf → Prop
  | put {name key : Text} {v : Value} {s' : Shelf} {e : Environment} (here : s.view? name = some e)
      (own : s'.view? name = some (e.insert key v))
      (others : ∀ other, other ≠ name → s'.view? other = s.view? other) :
      Effect s o (.put name key v) (.ok ()) s'
  | share {name key source sourceKey : Text} {v : Value} {s' : Shelf} {e : Environment}
      (here : s.view? name = some e) (given : s.value? source sourceKey = some v)
      (own : s'.view? name = some (e.insert key v)) (same : s'.bound? name key = s.bound? source sourceKey)
      (others : ∀ other, other ≠ name → s'.view? other = s.view? other) :
      Effect s o (.share name key source sourceKey) (.ok ()) s'
  | clear {name : Text} {s' : Shelf} {e : Environment} (here : s.view? name = some e)
      (own : s'.view? name = some Table.empty)
      (others : ∀ other, other ≠ name → s'.view? other = s.view? other) :
      Effect s o (.clear name) (.ok ()) s'
  | copy {name copyName : Text} {s' : Shelf} {e : Environment} (here : s.view? name = some e)
      (own : s'.view? copyName = some e) (same : ∀ k, s'.bound? copyName k = s.bound? name k)
      (others : ∀ other, other ≠ copyName → s'.view? other = s.view? other) :
      Effect s o (.copy name copyName) (.ok ()) s'
  | append {name key : Text} {v : Value} {s' : Shelf} {items : List Value}
      (here : s.value? name key = some (.list items))
      (grown : ∀ n k, o.origin? n k = o.origin? name key →
        s.value? n k = some (.list items) ∧ s'.value? n k = some (.list (items ++ [v])))
      (others : ∀ n k, o.origin? n k ≠ o.origin? name key → s'.value? n k = s.value? n k)
      (keys : ∀ n, (s'.view? n).map Table.keys = (s.view? n).map Table.keys) :
      Effect s o (.append name key v) (.ok ()) s'
  | absent {c : Change} (lacks : s.Lacks c) : Effect s o c (.error .missingKey) s
  | notList {name key : Text} {v w : Value} (here : s.value? name key = some w)
      (other : ∀ items, w ≠ .list items) :
      Effect s o (.append name key v) (.error .missingMember) s

variable {s : Shelf} {name key : Text}

/-- The origins tell what the entries are bound to, where `given` is what each step stored.
No two steps store the same list. -/
structure Traced (s : Shelf) (o : Origins) (time : Nat) (given : Nat → Stored) : Prop where
  bindings : ∀ name, (s.environments.get? name).map Table.get? = (o.entries name).map fun e key => (e key).map given
  past : ∀ name key i, o.origin? name key = some i → i < time
  own : ∀ i j place, given i = .shared place → given j = .shared place → i = j
  listed : ∀ i place, given i = .shared place → place < s.lists.length
  plain : ∀ i v, given i = .plain v → ∀ items, v ≠ .list items

namespace Traced

variable {o : Origins} {time : Nat} {given : Nat → Stored}

theorem entries_of_some (h : s.Traced o time given) {t : Table Stored} (ht : s.environments.get? name = some t) :
    ∃ e, o.entries name = some e ∧ ∀ key, t.get? key = (e key).map given := by
  obtain ⟨e, he, hget⟩ := Option.map_eq_some_iff.1 ((h.bindings name).symm.trans (by rw [ht]; rfl))
  exact ⟨e, he, fun key => (congrFun hget key).symm⟩

theorem entries_of_none (h : s.Traced o time given) (hname : s.environments.get? name = none) :
    o.entries name = none := by
  simpa [hname] using (h.bindings name).symm

theorem bound?_eq (h : s.Traced o time given) (name key : Text) :
    s.bound? name key = (o.origin? name key).map given := by
  unfold bound? Origins.origin?
  cases ht : s.environments.get? name with
  | none => rw [h.entries_of_none ht]; rfl
  | some t =>
    obtain ⟨e, he, hget⟩ := h.entries_of_some ht
    rw [he]
    exact hget key

theorem placed (h : s.Traced o time given) : s.Placed := by
  intro name key place hx
  rw [h.bound?_eq] at hx
  obtain ⟨i, -, hi⟩ := Option.map_eq_some_iff.1 hx
  exact h.listed i place hi

theorem later (h : s.Traced o time given) {time' : Nat} (ht : time ≤ time') : s.Traced o time' given :=
  { h with past := fun name key i hi => (h.past name key i hi).trans_le ht }

theorem give (h : s.Traced o time given) {s' : Shelf} {x : Stored} (henvironments : s'.environments = s.environments)
    (hlength : s.lists.length ≤ s'.lists.length)
    (hplace : ∀ place, x = .shared place → s.lists.length ≤ place ∧ place < s'.lists.length)
    (hplain : ∀ v, x = .plain v → ∀ items, v ≠ .list items) :
    s'.Traced o time (Function.update given time x) where
  bindings name := by
    rw [henvironments, h.bindings]
    cases he : o.entries name with
    | none => rfl
    | some e =>
      refine congrArg some (funext fun key => Option.map_congr fun i hi => ?_)
      have hlt : i < time := h.past name key i (by simp [Origins.origin?, he, hi])
      rw [Function.update_of_ne hlt.ne]
  past := h.past
  own i j place hi hj := by
    rw [Function.update_apply] at hi hj
    split_ifs at hi hj with h₁ h₂ h₂
    · rw [h₁, h₂]
    · exact absurd (h.listed j place hj) (hplace place hi).1.not_gt
    · exact absurd (h.listed i place hi) (hplace place hj).1.not_gt
    · exact h.own i j place hi hj
  listed i place hi := by
    rw [Function.update_apply] at hi
    split_ifs at hi
    · exact (hplace place hi).2
    · exact (h.listed i place hi).trans_le hlength
  plain i v hi := by
    rw [Function.update_apply] at hi
    split_ifs at hi
    · exact hplain v hi
    · exact h.plain i v hi

theorem store (h : s.Traced o time given) (v : Value) :
    (s.store v).2.Traced o time (Function.update given time (s.store v).1) := by
  obtain ⟨items, hs⟩ | ⟨hs, hv⟩ := store_cases s v
  · rw [hs]
    refine h.give rfl (by simp) (fun place hplace => ?_) nofun
    cases hplace
    simp
  · rw [hs]
    refine h.give rfl le_rfl nofun fun w hw => ?_
    cases hw
    exact hv

theorem replace (h : s.Traced o time given) {t : Table Stored} {e : Text → Option Nat}
    (ht : ∀ key, t.get? key = (e key).map given) (he : ∀ key i, e key = some i → i < time) (name : Text) :
    (s.replace name t).Traced (o.set name e) time given where
  bindings other := by
    rw [environments_replace, Origins.entries_set]
    split_ifs
    · exact congrArg some (funext ht)
    · exact h.bindings other
  past other key i hi := by
    rw [Origins.origin?, Origins.entries_set] at hi
    split_ifs at hi
    · exact he key i hi
    · exact h.past other key i hi
  own := h.own
  listed := h.listed
  plain := h.plain

theorem insert (h : s.Traced o time given) {t : Table Stored} {e : Text → Option Nat}
    (ht : s.environments.get? name = some t) (he : o.entries name = some e) {i : Nat} (hi : i < time) (key : Text) :
    (s.replace name (t.insert key (given i))).Traced (o.set name (Function.update e key (some i))) time given := by
  obtain ⟨e', he', hget⟩ := h.entries_of_some ht
  obtain rfl : e' = e := Option.some.inj (he'.symm.trans he)
  refine h.replace (fun k => ?_) (fun k j hj => ?_) name
  · rw [Table.get?_insert, Function.update_apply]
    split_ifs
    · rfl
    · exact hget k
  · rw [Function.update_apply] at hj
    split_ifs at hj
    · exact Option.some.inj hj ▸ hi
    · exact h.past name k j (by simp [Origins.origin?, he, hj])

theorem grow (h : s.Traced o time given) (place : Nat) (v : Value) : (s.grow place v).Traced o time given :=
  { h with listed := fun i p hi => by simpa [Shelf.grow] using h.listed i p hi }

/-- Entries hold the same list if and only if it was put in the same step. -/
theorem bound?_iff (h : s.Traced o time given) {place : Nat} (hx : s.bound? name key = some (.shared place))
    (name' key' : Text) :
    s.bound? name' key' = some (.shared place) ↔ o.origin? name' key' = o.origin? name key := by
  have hx' := hx
  rw [h.bound?_eq] at hx'
  obtain ⟨i, hi, hplace⟩ := Option.map_eq_some_iff.1 hx'
  constructor
  · intro hy
    rw [h.bound?_eq] at hy
    obtain ⟨j, hj, hplace'⟩ := Option.map_eq_some_iff.1 hy
    rw [hi, hj, h.own i j place hplace hplace']
  · intro he
    rw [h.bound?_eq, he, ← h.bound?_eq, hx]

theorem step_of_lacks (h : s.Traced o time given) {c : Change} (hc : s.Lacks c) : o.step time c = o := by
  have hnone {name : Text} (hname : s.view? name = none) : o.entries name = none :=
    h.entries_of_none (view?_eq_none_iff.1 hname)
  cases c with
  | put name key v => simp only [Origins.step, hnone hc]
  | share name key source sourceKey =>
    rcases hc with hname | hsource
    · simp only [Origins.step, hnone hname]
    · have hx : o.origin? source sourceKey = none := by
        simpa [value?_eq_none_iff, h.bound?_eq] using hsource
      cases hname : o.entries name <;> simp only [Origins.step, hname, hx]
  | clear name => simp only [Origins.step, hnone hc]
  | copy name copyName => simp only [Origins.step, hnone hc]
  | append name key v => rfl

end Traced

variable {o : Origins} {time : Nat} {given : Nat → Stored}

theorem traced_of_does (h : s.Traced o time given) {c : Change} {r : Except Fault Shelf} (hd : s.Does c r) :
    ∃ given', (s.kept r).Traced (o.step time c) (time + 1) given' := by
  have hlater := h.later time.le_succ
  cases hd with
  | @put name key v t here =>
    obtain ⟨e, he, -⟩ := h.entries_of_some here
    -- what is stored is given by this step, and then the entry is bound to it
    have hstore := ((h.store v).later time.le_succ).insert (environments_store s v ▸ here) he time.lt_succ_self key
    rw [Function.update_self] at hstore
    refine ⟨Function.update given time (s.store v).1, ?_⟩
    simp only [Origins.step, he]
    exact hstore
  | @share name key source sourceKey t x here hx =>
    obtain ⟨e, he, -⟩ := h.entries_of_some here
    rw [h.bound?_eq] at hx
    obtain ⟨i, hi, rfl⟩ := Option.map_eq_some_iff.1 hx
    refine ⟨given, ?_⟩
    simp only [Origins.step, he, hi]
    exact hlater.insert here he (Nat.lt_succ_of_lt (h.past source sourceKey i hi)) key
  | @clear name t here =>
    obtain ⟨e, he, -⟩ := h.entries_of_some here
    refine ⟨given, ?_⟩
    simp only [Origins.step, he]
    exact hlater.replace (fun _ => rfl) (fun _ _ hi => absurd hi (by simp)) name
  | @copy name copyName t here =>
    obtain ⟨e, he, hget⟩ := h.entries_of_some here
    refine ⟨given, ?_⟩
    simp only [Origins.step, he]
    exact hlater.replace hget (fun key i hi => hlater.past name key i (by simp [Origins.origin?, he, hi])) copyName
  | @append name key v place here => exact ⟨given, hlater.grow place v⟩
  | absent lacks => exact ⟨given, (h.step_of_lacks lacks).symm ▸ hlater⟩
  | plain here => exact ⟨given, hlater⟩

theorem effect_of_does (h : s.Traced o time given) {c : Change} {r : Except Fault Shelf} (hd : s.Does c r) :
    s.Effect o c (r.map fun _ => ()) (s.kept r) := by
  have hview {name : Text} {t : Table Stored} (here : s.environments.get? name = some t) :
      s.view? name = some (t.map s.valueOf) := congrArg (Option.map _) here
  cases hd with
  | @put name key v t here =>
    refine .put (hview here) ?_ fun other ho => ?_
    · rw [kept, view?_replace, if_pos rfl, Table.map_insert, map_valueOf_store h.placed here, valueOf_store_self]
    · rw [kept, view?_replace, if_neg ho, view?_store h.placed]
  | @share name key source sourceKey t x here hx =>
    have hvalue : s.value? source sourceKey = some (s.valueOf x) := by rw [value?_eq, hx, Option.map_some]
    refine .share (hview here) hvalue ?_ ?_ fun other ho => ?_
    · rw [kept, view?_replace, if_pos rfl, Table.map_insert]
    · rw [kept, bound?_replace, if_pos rfl, Table.get?_insert, if_pos rfl, hx]
    · rw [kept, view?_replace, if_neg ho]
  | @clear name t here =>
    refine .clear (hview here) ?_ fun other ho => ?_
    · rw [kept, view?_replace, if_pos rfl, Table.map_empty]
    · rw [kept, view?_replace, if_neg ho]
  | @copy name copyName t here =>
    refine .copy (hview here) ?_ (fun k => ?_) fun other ho => ?_
    · rw [kept, view?_replace, if_pos rfl]
    · rw [kept, bound?_replace, if_pos rfl, bound?, here, Option.bind_some]
    · rw [kept, view?_replace, if_neg ho]
  | @append name key v place here =>
    obtain ⟨items, hitems⟩ : ∃ items, s.lists[place]? = some items :=
      ⟨_, List.getElem?_eq_getElem (h.placed name key place here)⟩
    have hlist : s.valueOf (.shared place) = .list items := by simp [valueOf, hitems]
    have hbound (n k : Text) : (s.grow place v).bound? n k = s.bound? n k := rfl
    have hhere : s.value? name key = some (.list items) := by rw [value?_eq, here, Option.map_some, hlist]
    refine .append hhere (fun n k hnk => ?_) (fun n k hnk => ?_) fun n => ?_
    · have hx := (h.bound?_iff here n k).2 hnk
      rw [value?_eq, value?_eq, kept, hbound, hx, Option.map_some, Option.map_some, hlist, valueOf_grow_self hitems]
      exact ⟨rfl, rfl⟩
    · -- an entry at this place would have the same origin
      rw [value?_eq, value?_eq, kept, hbound]
      refine Option.map_congr fun x hx => valueOf_grow (fun hplace => hnk ?_) v
      exact (h.bound?_iff here n k).1 (hplace ▸ hx)
    · rw [kept, view?, view?, Option.map_map, Option.map_map]
      exact Option.map_congr fun t _ => by simp
  | absent lacks => exact .absent lacks
  | @plain name key v w here =>
    have hgiven := here
    rw [h.bound?_eq] at hgiven
    obtain ⟨i, -, hi⟩ := Option.map_eq_some_iff.1 hgiven
    have hvalue : s.value? name key = some w := by rw [value?_eq, here]; rfl
    exact .notList hvalue (h.plain i w hi)

theorem traced_after (h : s.Traced o time given) (cs : List Change) :
    ∃ given', (s.afterAll cs).Traced (o.after time cs) (time + cs.length) given' := by
  induction cs generalizing s o time given with
  | nil => exact ⟨given, h⟩
  | cons c cs ih =>
    obtain ⟨given', hstep⟩ := traced_of_does h (does_apply s c)
    obtain ⟨given'', hrest⟩ := ih hstep
    rw [Nat.add_right_comm] at hrest
    exact ⟨given'', hrest⟩

theorem environments_blank (names : List Text) (name : Text) :
    (blank names).environments.get? name = if name ∈ names then some Table.empty else none := by
  have hfold (s : Shelf) : (names.foldl (·.replace · Table.empty) s).environments.get? name =
      if name ∈ names then some Table.empty else s.environments.get? name := by
    induction names generalizing s with
    | nil => simp
    | cons n names ih =>
      rw [List.foldl_cons, ih, environments_replace]
      by_cases hn : name = n <;> simp [hn]
  exact hfold empty

theorem traced_blank (names : List Text) :
    (blank names).Traced (Origins.blank names) 0 fun _ => .plain .null where
  bindings name := by
    rw [environments_blank, Origins.blank]
    by_cases hname : name ∈ names
    · simp only [hname, List.contains_iff_mem.2 hname, if_true]
      rfl
    · simp only [hname, mt List.contains_iff_mem.1 hname, if_false]
      rfl
  past name key i hi := by
    simp only [Origins.origin?, Origins.blank] at hi
    split_ifs at hi <;> cases hi
  own := nofun
  listed := nofun
  plain i v hv := by
    cases hv
    exact nofun

/-- After any changes, entries hold the same list if and only if it was put in the same step:
they got it by copies, or because it was put again, and have not been overwritten or cleared
since. The next change rebinds entries of one environment, where a copy has those of its
source in their order; or it lets a list grow in all entries of its origin and changes nothing
else; or it fails and leaves everything as it is. An environment that the changes after it
are not about keeps its bindings, so a copy and its source go on apart. -/
theorem copies_share_only_lists (names : List Text) (cs : List Change) :
    let s := (blank names).afterAll cs
    let o := (Origins.blank names).after 0 cs
    (∀ name key name' key' place, s.bound? name key = some (.shared place) →
      (s.bound? name' key' = some (.shared place) ↔ o.origin? name' key' = o.origin? name key)) ∧
    (∀ c, s.Effect o c (s.reply c) (s.after c)) ∧
    ∀ name ds, (∀ c ∈ ds, c.target? ≠ some name) →
      (s.afterAll ds).environments.get? name = s.environments.get? name := by
  intro s o
  obtain ⟨given, h⟩ := traced_after (traced_blank names) cs
  exact ⟨fun name key name' key' place hx => h.bound?_iff hx name' key', fun c => effect_of_does h (does_apply s c),
    fun name ds hds => environments_after hds⟩

/-- The list of `y` is that of a copy's copy, under two keys; the entry of `x` was overwritten. -/
theorem copies_share_only_lists_sample :
    let cs : List Change := [.put ['m'] ['k'] (.list []), .copy ['m'] ['x'], .copy ['x'] ['y'],
      .put ['x'] ['k'] (.list []), .share ['y'] ['j'] ['y'] ['k'], .clear ['m']]
    let s := (blank [['m']]).afterAll cs
    let o := (Origins.blank [['m']]).after 0 cs
    let grown := s.after (.append ['y'] ['j'] (.int 1))
    let ds : List Change := [.clear ['x'], .append ['y'] ['k'] (.int 2), .copy ['x'] ['m']]
    (s.bound? ['y'] ['k'] = some (.shared 0) ∧
      (s.bound? ['y'] ['j'] = some (.shared 0) ↔ o.origin? ['y'] ['j'] = o.origin? ['y'] ['k'])) ∧
    (∃ items, grown.value? ['y'] ['k'] = some (.list (items ++ [.int 1])) ∧
      grown.value? ['x'] ['k'] = s.value? ['x'] ['k']) ∧
    (∀ c ∈ ds, c.target? ≠ some ['y']) ∧
    (s.afterAll ds).environments.get? ['y'] = s.environments.get? ['y'] := by
  intro cs s o grown ds
  obtain ⟨hsame, heffect, hkept⟩ := copies_share_only_lists [['m']] cs
  have hds : ∀ c ∈ ds, c.target? ≠ some ['y'] := by decide
  have happend : s.Effect o (.append ['y'] ['j'] (.int 1)) (.ok ()) grown := heffect _
  refine ⟨⟨rfl, hsame _ _ _ _ 0 rfl⟩, ?_, hds, hkept _ ds hds⟩
  cases happend with
  | append here hgrown others keys =>
    exact ⟨_, (hgrown ['y'] ['k'] (by decide)).2, others ['x'] ['k'] (by decide)⟩

end TagExpander.Shelf
