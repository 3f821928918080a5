import TagExpander.Dice.Roller
import TagExpander.Library.Chance
import TagExpander.Library.Memory

/-! The methods of the library, in order. -/

namespace TagExpander.Library

/-- A method that answers the bare name with a fixed text, and parameters by `act`. -/
def texting (name : Text) (bare : Option Text) (act : Text → Handler)
    (h : name ≠ [] ∧ name.trim = name := by decide) : Method Handler :=
  ⟨name, bare.map answer, some (.whole act), h, by simp⟩

/-- The same with split parameters. -/
def listing (name : Text) (bare : Option Text) (act : List Text → Handler)
    (h : name ≠ [] ∧ name.trim = name := by decide) : Method Handler :=
  ⟨name, bare.map answer, some (.parts act), h, by simp⟩

/-- A method that rolls; the bare name rolls one die. -/
def rolling (name : Text) (act : Text → Handler)
    (h : name ≠ [] ∧ name.trim = name := by decide) : Method Handler :=
  ⟨name, some (act oneDie), some (.whole act), h, by simp⟩

def rollMethod (roller : Roller) : Method Handler :=
  rolling "roll".toList (roll roller)

def rollInFullMethod (roller : Roller) : Method Handler :=
  rolling "vroll".toList (rollInFull roller)

def methods : List (Method Handler) :=
  [texting "upper".toList (some []) fun s => answer s.upper,
   texting "lower".toList (some []) fun s => answer s.lower,
   texting "length".toList (some ['0']) length,
   texting "trim".toList (some []) fun s => answer s.trim,
   listing "replace".toList none replace,
   listing "choose".toList (some []) choose,
   listing "range".toList none range,
   texting "note".toList (some []) fun _ => answer [],
   texting "fail".toList none giveUp,
   rollMethod Dice.roller,
   rollInFullMethod Dice.roller,
   texting "set".toList none set,
   texting "get".toList none get,
   texting "exists".toList none isSet]

/-- The library's method of a name. -/
def method? (name : Text) : Option (Method Handler) :=
  methods.find? (·.name = name)

end TagExpander.Library
