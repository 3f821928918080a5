import TagExpander.Limits
import TagExpander.Text.Quoted

/-! Log records of parsers: one for a name that is registered again, the others
for expansions that do not run to their end. -/

namespace TagExpander

inductive Record where
  | repeatedName (name : Text)
  | aborted (contents message : Text)
  | stoppedAfter (iterations : Nat)
  | stoppedAtLength (length : Nat) (limit : Limit)
  | truncated (length : Nat) (limit : Limit)
deriving DecidableEq, Repr

namespace Record

inductive Level where
  | debug
  | warning
deriving DecidableEq, Repr

def level : Record → Level
  | repeatedName _ => .warning
  | _ => .debug

def message : Record → Text
  | repeatedName n =>
    "Method ".toList ++ n.quoted ++ " registered more than once, keeping the last one.".toList
  | aborted c m => "Parse aborted by ".toList ++ c.quoted ++ ": ".toList ++ m
  | stoppedAfter n => "Parse stopped after ".toList ++ Text.Decimal.ofNat n ++ " iterations.".toList
  | stoppedAtLength n l =>
    "Parse stopped at length ".toList ++ Text.Decimal.ofNat n ++ " (max ".toList ++ l.shown ++ ").".toList
  | truncated n l =>
    "Truncating output of length ".toList ++ Text.Decimal.ofNat n ++ " to ".toList ++ l.shown ++ ['.']

/-- Level, logger and message on one line. -/
def line (r : Record) : Text :=
  (match r.level with
    | .debug => "DEBUG".toList
    | .warning => "WARNING".toList) ++ ":tagging.parser:".toList ++ r.message

end Record

end TagExpander
