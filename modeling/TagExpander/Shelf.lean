import TagExpander.Environment
import TagExpander.Fault

/-! Environments side by side that share lists. A list that is put into an
environment gets a place of its own; a copy of the environment refers to the same
place, and so does an entry that the list is put into again, so a list that grows in
one grows in the others. Bindings are never shared. -/

namespace TagExpander

/-- A value, or the place of a list. -/
inductive Stored where
  | plain (v : Value)
  | shared (place : Nat)

structure Shelf where
  lists : List (List Value)
  environments : Table (Table Stored)

namespace Shelf

def empty : Shelf := ⟨[], Table.empty⟩

def valueOf (s : Shelf) : Stored → Value
  | .plain v => v
  | .shared place => .list ((s.lists[place]?).getD [])

/-- The environment that a name stands for. -/
def view? (s : Shelf) (name : Text) : Option Environment :=
  (s.environments.get? name).map fun t => t.map s.valueOf

def views (s : Shelf) : Table Environment :=
  s.environments.map fun t => t.map s.valueOf

/-- The environments of `s` with the lists as they have grown in a `later` shelf. -/
def viewsIn (s later : Shelf) : Table Environment :=
  { s with lists := later.lists }.views

/-- Stores a value; a list takes the next place. -/
def store (s : Shelf) : Value → Stored × Shelf
  | .list items => (.shared s.lists.length, { s with lists := s.lists ++ [items] })
  | v => (.plain v, s)

def replace (s : Shelf) (name : Text) (t : Table Stored) : Shelf :=
  { s with environments := s.environments.insert name t }

def put (s : Shelf) (name key : Text) (v : Value) : Except Fault Shelf :=
  match s.environments.get? name with
  | none => .error .missingKey
  | some t =>
    let (stored, s) := s.store v
    .ok (s.replace name (t.insert key stored))

def clear (s : Shelf) (name : Text) : Except Fault Shelf :=
  match s.environments.get? name with
  | none => .error .missingKey
  | some _ => .ok (s.replace name Table.empty)

/-- The copy holds the same values and places; the name it gets is rebound. -/
def copy (s : Shelf) (name copyName : Text) : Except Fault Shelf :=
  match s.environments.get? name with
  | none => .error .missingKey
  | some t => .ok (s.replace copyName t)

def find (s : Shelf) (name key : Text) : Except Fault Stored :=
  match (s.environments.get? name).bind (·.get? key) with
  | none => .error .missingKey
  | some stored => .ok stored

def get (s : Shelf) (name key : Text) : Except Fault Value :=
  (s.find name key).map s.valueOf

/-- Puts what is stored under another key, in this environment or another one: a list is
not stored again, it is the same list. -/
def share (s : Shelf) (name key source sourceKey : Text) : Except Fault Shelf :=
  match s.environments.get? name with
  | none => .error .missingKey
  | some t => (s.find source sourceKey).map fun stored => s.replace name (t.insert key stored)

/-- Lets the list under a key grow, wherever it is shared. -/
def append (s : Shelf) (name key : Text) (v : Value) : Except Fault Shelf :=
  match (s.environments.get? name).bind (·.get? key) with
  | none => .error .missingKey
  | some (.plain _) => .error .missingMember
  | some (.shared place) => .ok { s with lists := s.lists.modify place (· ++ [v]) }

inductive Change where
  | put (name key : Text) (v : Value)
  | share (name key source sourceKey : Text)
  | clear (name : Text)
  | copy (name copyName : Text)
  | append (name key : Text) (v : Value)

def apply (s : Shelf) : Change → Except Fault Shelf
  | .put name key v => s.put name key v
  | .share name key source sourceKey => s.share name key source sourceKey
  | .clear name => s.clear name
  | .copy name copyName => s.copy name copyName
  | .append name key v => s.append name key v

/-- A change that fails leaves the shelf as it is. -/
def after (s : Shelf) (c : Change) : Shelf :=
  match s.apply c with
  | .ok s' => s'
  | .error _ => s

/-- An environment with fresh entries. -/
def start (name : Text) (entries : List (Text × Value)) : Shelf :=
  entries.foldl (fun s e => s.after (.put name e.1 e.2)) (empty.replace name Table.empty)

end Shelf

end TagExpander
