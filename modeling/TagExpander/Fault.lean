import TagExpander.Limits
import TagExpander.Number.Fault
import TagExpander.Text.Quoted

/-! Why an operation fails. A handler either aborts the text being expanded, and
its message is the whole answer, or it faults and the fault leaves the expansion. -/

namespace TagExpander

/-- A parser or a method that was put together wrongly. -/
inductive InvalidArgument where
  | methodName (given : Option Text)
  | noForm (name : Text)
  | notPositive (limit : LimitName) (given : Text)
  | notInteger (limit : LimitName) (given : Text)
  | notMethod (given : Value)
  | other (message : Text)

/-- The kinds of errors that rolling dice raises. -/
inductive RollErrorKind where
  | unreadable
  | badValue
  | tooManyDice
deriving DecidableEq, Repr

structure RollError where
  kind : RollErrorKind
  message : Text
deriving DecidableEq, Repr

inductive Fault where
  | general (message : Text)
  | invalidArgument (cause : InvalidArgument)
  | badValue
  | badType
  | missingKey
  | missingMember
  | divisionByZero
  | number (cause : NumberFault)
  | workerClosed
  | roll (error : RollError)
  | nestedTooDeep

/-- How a handler ends without an answer. -/
inductive Stop where
  | abort (message : Text)
  | fault (cause : Fault)

/-- The name of a value's type. -/
def Value.typeName : Value → Text
  | .null => "NoneType".toList
  | .bool _ => "bool".toList
  | .int _ => "int".toList
  | .float _ => "float".toList
  | .text _ => "str".toList
  | .list _ => "list".toList
  | .dict _ => "dict".toList

/-- Empty values, zeros, `false` and `null`. -/
def Value.isFalsy : Value → Bool
  | .null => true
  | .bool b => !b
  | .int n => n == 0
  | .float x => x.isZero
  | .text s => s.isEmpty
  | .list items => items.isEmpty
  | .dict entries => entries.isEmpty

def InvalidArgument.message : InvalidArgument → Text
  | methodName none => "Invalid method name: None".toList
  | methodName (some s) => "Invalid method name: ".toList ++ s.quoted
  | noForm n => "Method ".toList ++ n.quoted ++ " must define a simple or a complex form.".toList
  | notPositive l t => l.shown ++ " must be positive, got ".toList ++ t ++ ['.']
  | notInteger l t => l.shown ++ " must be an integer, got ".toList ++ t ++ ['.']
  | notMethod v => "Expected a Method, got ".toList ++ v.typeName ++ ['.']
  | other m => m

/-- The message of an abort that gives none. -/
def defaultMessage : Text := "An error occurred while parsing the tag.".toList

def Stop.abortWith (message : Text) : Stop :=
  .abort (if message.isEmpty then defaultMessage else message)

end TagExpander
