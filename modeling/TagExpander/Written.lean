import TagExpander.Fault
import TagExpander.Room

/-! The texts of values. A value has two: the one that is shown to a reader, and the quoted
one, which tells a text from other values and is used inside of lists and dictionaries. An
integer with too many digits has neither, and what is nested is written one call deeper than
what holds it. -/

namespace TagExpander.Value

def numeral (n : Int) : Except Fault Text :=
  match Text.Decimal.ofInt? n with
  | some t => .ok t
  | none => .error (.number .tooManyDigits)

mutual

def quotedIn (room : Nat) (v : Value) : Except Fault Text :=
  match room, v with
  | 0, _ => .error .nestedTooDeep
  | _ + 1, null => .ok "None".toList
  | _ + 1, bool true => .ok "True".toList
  | _ + 1, bool false => .ok "False".toList
  | _ + 1, int n => numeral n
  | _ + 1, float x => .ok x.text
  | _ + 1, text s => .ok s.quoted
  | inside + 1, list items => (quotedItems inside items).map fun t => '[' :: t ++ [']']
  | inside + 1, dict entries => (quotedEntries inside entries).map fun t => '\x7b' :: t ++ ['\x7d']

def quotedItems (room : Nat) : List Value → Except Fault Text
  | [] => .ok []
  | [v] => v.quotedIn room
  | v :: vs => do return (← v.quotedIn room) ++ ", ".toList ++ (← quotedItems room vs)

def quotedEntries (room : Nat) : List (Text × Value) → Except Fault Text
  | [] => .ok []
  | [(k, v)] => do return k.quoted ++ ": ".toList ++ (← v.quotedIn room)
  | (k, v) :: vs => do
    return k.quoted ++ ": ".toList ++ (← v.quotedIn room) ++ ", ".toList ++ (← quotedEntries room vs)

end

/-- A text as it is, and any other value quoted. -/
def shownIn (room : Nat) : Value → Except Fault Text
  | text s => .ok s
  | v => v.quotedIn room

end TagExpander.Value
