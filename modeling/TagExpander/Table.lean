import TagExpander.Text.Basic

/-! Tables from names to values, in the order in which the names came in. Writing
a name again keeps its place. -/

namespace TagExpander

structure Table (α : Type) where
  entries : List (Text × α)
  nodup : (entries.map Prod.fst).Nodup

namespace Table

variable {α β : Type}

def empty : Table α := ⟨[], List.nodup_nil⟩

instance : Inhabited (Table α) := ⟨empty⟩

def keys (t : Table α) : List Text :=
  t.entries.map Prod.fst

def size (t : Table α) : Nat :=
  t.entries.length

def seek (k : Text) : List (Text × α) → Option α
  | [] => none
  | (k', v) :: r => if k' = k then some v else seek k r

def get? (t : Table α) (k : Text) : Option α :=
  seek k t.entries

def contains (t : Table α) (k : Text) : Bool :=
  t.keys.contains k

def put (k : Text) (v : α) : List (Text × α) → List (Text × α)
  | [] => [(k, v)]
  | (k', v') :: r => if k' = k then (k, v) :: r else (k', v') :: put k v r

theorem keys_put (k : Text) (v : α) (es : List (Text × α)) :
    (put k v es).map Prod.fst =
      if k ∈ es.map Prod.fst then es.map Prod.fst else es.map Prod.fst ++ [k] := by
  induction es with
  | nil => rfl
  | cons e r ih =>
    obtain ⟨k', v'⟩ := e
    by_cases h : k' = k
    · simp [put, h]
    · have h' : k ≠ k' := fun e => h e.symm
      simp only [put, if_neg h, List.map_cons, ih, List.mem_cons, h', false_or]
      split <;> simp

theorem nodup_put {k : Text} {v : α} {es : List (Text × α)} (h : (es.map Prod.fst).Nodup) :
    ((put k v es).map Prod.fst).Nodup := by
  rw [keys_put]
  split
  · exact h
  · next hk =>
    rw [List.nodup_append]
    exact ⟨h, by simp, fun a ha b hb => by
      simp only [List.mem_singleton] at hb
      intro e
      exact hk (hb ▸ e ▸ ha)⟩

def insert (t : Table α) (k : Text) (v : α) : Table α :=
  ⟨put k v t.entries, nodup_put t.nodup⟩

/-- Later entries overwrite earlier ones. -/
def ofList (es : List (Text × α)) : Table α :=
  es.foldl (fun t e => t.insert e.1 e.2) empty

def map (f : α → β) (t : Table α) : Table β :=
  ⟨t.entries.map fun e => (e.1, f e.2), by
    simpa [List.map_map, Function.comp_def] using t.nodup⟩

theorem ext {s t : Table α} (h : s.entries = t.entries) : s = t := by
  cases s
  cases t
  simp only [mk.injEq]
  exact h

@[simp] theorem get?_empty (k : Text) : (empty : Table α).get? k = none := rfl

theorem keys_insert (t : Table α) (k : Text) (v : α) :
    (t.insert k v).keys = if k ∈ t.keys then t.keys else t.keys ++ [k] :=
  keys_put k v t.entries

theorem seek_put (k k' : Text) (v : α) (es : List (Text × α)) :
    seek k' (put k v es) = if k' = k then some v else seek k' es := by
  induction es with
  | nil => simp [put, seek, eq_comm]
  | cons e r ih =>
    obtain ⟨a, b⟩ := e
    by_cases h : a = k
    · subst h
      by_cases h' : k' = a
      · simp [put, seek, h']
      · simp [put, seek, h', Ne.symm h']
    · simp only [put, if_neg h, seek, ih]
      by_cases h' : a = k'
      · subst h'
        simp [h]
      · simp [h']

/-- The value last written under a name is read back, and no other name is
changed. -/
theorem get?_insert (t : Table α) (k k' : Text) (v : α) :
    (t.insert k v).get? k' = if k' = k then some v else t.get? k' :=
  seek_put k k' v t.entries

theorem get?_map (f : α → β) (t : Table α) (k : Text) : (t.map f).get? k = (t.get? k).map f := by
  simp only [get?, map]
  induction t.entries with
  | nil => rfl
  | cons e r ih => by_cases h : e.1 = k <;> simp [seek, h, ih]

@[simp] theorem keys_map (f : α → β) (t : Table α) : (t.map f).keys = t.keys := by
  simp [keys, map]

@[simp] theorem map_empty (f : α → β) : (empty : Table α).map f = empty := rfl

theorem map_put (f : α → β) (k : Text) (v : α) (es : List (Text × α)) :
    (put k v es).map (fun e => (e.1, f e.2)) = put k (f v) (es.map fun e => (e.1, f e.2)) := by
  induction es with
  | nil => rfl
  | cons e r ih => by_cases h : e.1 = k <;> simp [put, h, ih]

theorem map_insert (f : α → β) (t : Table α) (k : Text) (v : α) :
    (t.insert k v).map f = (t.map f).insert k (f v) :=
  ext (map_put f k v t.entries)

theorem seek_of_mem {es : List (Text × α)} (h : (es.map Prod.fst).Nodup) {e : Text × α} (he : e ∈ es) :
    seek e.1 es = some e.2 := by
  induction es with
  | nil => cases he
  | cons e' r ih =>
    rw [List.map_cons, List.nodup_cons] at h
    rcases List.mem_cons.1 he with rfl | hr
    · simp [seek]
    · have hne : e'.1 ≠ e.1 := fun hk => h.1 (hk ▸ List.mem_map_of_mem hr)
      rw [seek, if_neg hne, ih h.2 hr]

/-- Functions that agree on the values of a table map it to the same one. -/
theorem map_congr {f g : α → β} {t : Table α} (h : ∀ k v, t.get? k = some v → f v = g v) :
    t.map f = t.map g :=
  ext (List.map_congr_left fun e he => congrArg (e.1, ·) (h e.1 e.2 (seek_of_mem t.nodup he)))

end Table

end TagExpander
