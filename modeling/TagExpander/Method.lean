import TagExpander.Fault
import TagExpander.Params
import TagExpander.Text.Blank

/-! Methods, the named actions behind markers. The simple form answers a bare
name, the complex form a name with parameters, which it takes as one text or
split into parts. -/

namespace TagExpander

inductive ComplexForm (α : Type) where
  | whole (act : Text → α)
  | parts (act : List Text → α)

namespace ComplexForm

variable {α β : Type}

def apply : ComplexForm α → Text → α
  | whole act, params => act params
  | parts act, params => act (Params.split params)

def map (f : α → β) : ComplexForm α → ComplexForm β
  | whole act => whole fun p => f (act p)
  | parts act => parts fun p => f (act p)

@[simp] theorem apply_map (f : α → β) (c : ComplexForm α) (params : Text) :
    (c.map f).apply params = f (c.apply params) := by
  cases c <;> rfl

end ComplexForm

/-- A name is not empty and has no white space at its ends. -/
structure Method (α : Type) where
  name : Text
  simple : Option α
  complex : Option (ComplexForm α)
  name_valid : name ≠ [] ∧ name.trim = name
  has_form : simple.isSome ∨ complex.isSome

namespace Method

variable {α β : Type}

def make (name : Option Text) (simple : Option α) (complex : Option (ComplexForm α)) :
    Except InvalidArgument (Method α) :=
  match name with
  | none => .error (.methodName none)
  | some n =>
    if hn : n ≠ [] ∧ n.trim = n then
      if hf : simple.isSome ∨ complex.isSome then .ok ⟨n, simple, complex, hn, hf⟩
      else .error (.noForm n)
    else .error (.methodName (some n))

def map (f : α → β) (m : Method α) : Method β where
  name := m.name
  simple := m.simple.map f
  complex := m.complex.map (·.map f)
  name_valid := m.name_valid
  has_form := by simpa using m.has_form

/-- The action for a marker with these parameters, if the method has the form. -/
def action? (m : Method α) : Option Text → Option α
  | none => m.simple
  | some params => m.complex.map (·.apply params)

def forms (m : Method α) : List Text :=
  (if m.simple.isSome then ["simple".toList] else []) ++
    if m.complex.isSome then ["complex".toList] else []

def quoted (m : Method α) : Text :=
  "<Method name=".toList ++ m.name.quoted ++ " forms=".toList ++ Text.quotedList m.forms ++ ['>']

theorem action?_map (f : α → β) (m : Method α) (p : Option Text) :
    (m.map f).action? p = (m.action? p).map f := by
  cases p with
  | none => rfl
  | some p => simp [action?, map, Function.comp_def]

end Method

end TagExpander
