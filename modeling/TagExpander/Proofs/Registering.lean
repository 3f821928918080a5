import TagExpander.Proofs.Building
import TagExpander.Proofs.Locality

/-! The registry of a list of methods. A name is registered where it comes first, with the
method that comes last, and there is a record for each place where it comes again. A marker
is answered by the last method of its name, whatever else is in the list. -/

namespace TagExpander

namespace Registry

variable {α : Type}

/-- The names at those places of a list where `p` holds of the name and the names before it. -/
def namesAt (p : Text → List Text → Bool) (names : List Text) : List Text :=
  (names.zipIdx.filter fun e => p e.1 (names.take e.2)).map Prod.fst

def firstNames (names : List Text) : List Text :=
  namesAt (fun n before => n ∉ before) names

/-- A name for each place where it came earlier. -/
def repeatedNames (names : List Text) : List Text :=
  namesAt (fun n before => n ∈ before) names

def lastNamed (methods : List (Method α)) (name : Text) : Option (Method α) :=
  (methods.filter (·.name = name)).getLast?

theorem namesAt_concat (p : Text → List Text → Bool) (names : List Text) (n : Text) :
    namesAt p (names ++ [n]) = namesAt p names ++ if p n names then [n] else [] := by
  -- a place of the shorter list has the same names before it in the longer one
  have hbefore : names.zipIdx.filter (fun e => p e.1 ((names ++ [n]).take e.2)) =
      names.zipIdx.filter fun e => p e.1 (names.take e.2) := by
    refine List.filter_congr fun e he => ?_
    rw [List.take_append_of_le_length (List.snd_lt_of_mem_zipIdx he).le]
  have hlast : ([n].zipIdx names.length).filter (fun e => p e.1 ((names ++ [n]).take e.2)) =
      if p n names then [(n, names.length)] else [] := by
    simp [List.filter_cons]
  rw [namesAt, namesAt, List.zipIdx_append, List.filter_append, List.map_append, hbefore, Nat.zero_add, hlast]
  split_ifs <;> rfl

theorem firstNames_concat (names : List Text) (n : Text) :
    firstNames (names ++ [n]) = if n ∈ names then firstNames names else firstNames names ++ [n] := by
  rw [firstNames, namesAt_concat, ← firstNames]
  by_cases hn : n ∈ names <;> simp [hn]

theorem repeatedNames_concat (names : List Text) (n : Text) :
    repeatedNames (names ++ [n]) = if n ∈ names then repeatedNames names ++ [n] else repeatedNames names := by
  rw [repeatedNames, namesAt_concat, ← repeatedNames]
  by_cases hn : n ∈ names <;> simp [hn]

theorem mem_firstNames {names : List Text} {name : Text} : name ∈ firstNames names ↔ name ∈ names := by
  induction names using List.reverseRecOn with
  | nil => rfl
  | append_singleton names n ih =>
    rw [firstNames_concat]
    by_cases hn : n ∈ names
    · have hname : name = n → name ∈ names := fun e => e ▸ hn
      simpa [hn, ih] using hname
    · simp [hn, ih]

theorem length_repeatedNames (names : List Text) :
    (repeatedNames names).length + names.toFinset.card = names.length := by
  induction names using List.reverseRecOn with
  | nil => rfl
  | append_singleton names n ih =>
    have hset : (names ++ [n]).toFinset = insert n names.toFinset := by ext; simp
    rw [repeatedNames_concat, hset]
    by_cases hn : n ∈ names
    · rw [if_pos hn, Finset.insert_eq_of_mem (List.mem_toFinset.2 hn), List.length_append, List.length_append, ← ih]
      omega
    · rw [if_neg hn, Finset.card_insert_of_notMem (mt List.mem_toFinset.1 hn), List.length_append, ← ih]
      rfl

example :
    let names := [['b'], ['a'], ['b'], ['c'], ['a'], ['b']]
    firstNames names = [['b'], ['a'], ['c']] ∧ repeatedNames names = [['b'], ['a'], ['b']] := by decide

structure Registered (names : List Text) (s : Registry α × List Record) : Prop where
  keys : s.1.keys = firstNames names
  records : s.2 = (repeatedNames names).map .repeatedName

theorem Registered.register {names : List Text} {s : Registry α × List Record} (h : Registered names s)
    (m : Method α) : Registered (names ++ [m.name]) (register s m) where
  keys := by
    rw [Registry.register, Table.keys_insert, h.keys, firstNames_concat]
    simp only [mem_firstNames]
  records := by
    have hcontains : s.1.contains m.name = true ↔ m.name ∈ names := by
      rw [Table.contains, List.contains_iff_mem, h.keys, mem_firstNames]
    rw [Registry.register, repeatedNames_concat, h.records]
    by_cases hm : m.name ∈ names
    · rw [if_pos hm, if_pos (hcontains.2 hm), List.map_append]
      rfl
    · rw [if_neg hm, if_neg (mt hcontains.1 hm)]

theorem Registered.foldl {names : List Text} {s : Registry α × List Record} (h : Registered names s)
    (methods : List (Method α)) : Registered (names ++ methods.map (·.name)) (methods.foldl Registry.register s) := by
  induction methods generalizing names s with
  | nil => simpa using h
  | cons m methods ih =>
    have hnext := ih (h.register m)
    rwa [List.append_assoc] at hnext

theorem registered_build (methods : List (Method α)) : Registered (methods.map (·.name)) (build methods) := by
  have hempty : Registered [] ((Table.empty, []) : Registry α × List Record) := ⟨rfl, rfl⟩
  exact hempty.foldl methods

/-- What a marker comes to that this handler answers, or else none. -/
def answerBy {β σ : Type} (act : β → Action σ) : Option β → Action σ
  | some handler => act handler
  | none => fun st => (.ok .nothing, st)

theorem dispatch_build {β σ : Type} (methods : List (Method β)) (act : β → Action σ) (contents : Text) :
    Expansion.dispatch ((build methods).1.map (·.map act)) contents =
      answerBy act
        ((lastNamed methods (Call.ofContents contents).name).bind (·.action? (Call.ofContents contents).params)) := by
  funext st
  rw [Expansion.dispatch, action?_map, action?, get?_build, ← lastNamed]
  cases (lastNamed methods (Call.ofContents contents).name).bind (·.action? (Call.ofContents contents).params) <;> rfl

end Registry

open Registry

/-- The parser of a list of methods has the names of the list, in the order in which they come
first, each with the last method of the name. One warning is recorded for each place where a
name came earlier, in the order of the list. A marker is answered by the last method of its
name, if there is one and it has the form, and by no other part of the list. -/
theorem Parser.build_registers_last (methods : List (Method Handler)) (limits : Limits) :
    let (p, records) := Parser.build methods limits
    let names := methods.map (·.name)
    (∀ name, p.registry.get? name = lastNamed methods name) ∧ p.registry.keys = firstNames names ∧
    (records = (repeatedNames names).map .repeatedName ∧ records.all (·.level = .warning) ∧
      records.length + names.toFinset.card = methods.length) ∧
    ∀ contents,
      let call := Call.ofContents contents
      let handler? := (lastNamed methods call.name).bind (·.action? call.params)
      (∀ server, Expansion.dispatch (p.actions server) contents = answerBy (·.act server) handler?) ∧
      Expansion.dispatch p.refusals contents = answerBy (fun _ w => (.error (.fault .nestedTooDeep), w)) handler? := by
  have h := registered_build methods
  have hlength : (Registry.build methods).2.length + (methods.map (·.name)).toFinset.card = methods.length := by
    rw [h.records, List.length_map, length_repeatedNames, List.length_map]
  have hlevel : (Registry.build methods).2.all (·.level = .warning) := by
    rw [h.records, List.all_map, List.all_eq_true]
    exact fun n _ => rfl
  refine ⟨get?_build methods, h.keys, ⟨h.records, hlevel, hlength⟩, fun contents => ⟨fun server => ?_, ?_⟩⟩
  · exact dispatch_build methods (fun handler => handler.act server) contents
  · exact dispatch_build methods (fun _ w => (.error (.fault .nestedTooDeep), w)) contents

end TagExpander
