import TagExpander.Fault

/-! The journal: log entries, the levels that let them through, and the lines that
are written. Detailed handlers add to severe entries the place they come from and
the call stack, which is written as a fixed line. -/

namespace TagExpander.Journal

structure Entry where
  logger : Text
  level : Int
  path : Text
  line : Int
  message : Text
  time : Int
  millisecond : Int

structure Sink where
  level : Int
  detailed : List Bool

/-- The names of levels; two of them are second names. -/
def levelNames : List (Text × Int) :=
  [("CRITICAL".toList, 50), ("FATAL".toList, 50), ("ERROR".toList, 40), ("WARNING".toList, 30),
   ("WARN".toList, 30), ("INFO".toList, 20), ("DEBUG".toList, 10), ("NOTSET".toList, 0)]

/-- The level to log at. Without one it is the level of the settings. -/
def levelOf (v : Value) : Except Fault Int :=
  if v.isFalsy then .ok 20
  else
    match v with
    | .int n => .ok n
    | .bool _ => .ok 1
    | .text s =>
      match levelNames.lookup s with
      | some n => .ok n
      | none => .error .badValue
    | _ => .error .badType

def levelName (n : Int) : Text :=
  match levelNames.find? (·.2 = n) with
  | some (name, _) => name
  | none => "Level ".toList ++ Text.Decimal.ofInt n

/-- `times` handlers, each of them detailed or not. Without any the level is not
set either. -/
def setUp (level : Value) (detailed : Bool) (times : Nat) : Except Fault Sink :=
  if times = 0 then .ok ⟨0, []⟩
  else (levelOf level).map fun n => ⟨n, List.replicate times detailed⟩

/-- Loggers below this library's own one, and that one itself. -/
def isOurs (logger : Text) : Bool :=
  logger = "tagging".toList || "tagging.".toList.isPrefixOf logger

/-- Level zero leaves the threshold to the root. -/
def admits (s : Sink) (e : Entry) : Bool :=
  isOurs e.logger && 0 < e.level && (if s.level = 0 then 30 else s.level) ≤ e.level

/-- Year, month and day of a day counted from 1 January 1970. -/
def dateOf (day : Int) : Int × Int × Int :=
  let z := day + 719468
  let era := Int.fdiv z 146097
  let dayOfEra := Int.fmod z 146097
  let yearOfEra := (dayOfEra - dayOfEra / 1460 + dayOfEra / 36524 - dayOfEra / 146096) / 365
  let dayOfYear := dayOfEra - (365 * yearOfEra + yearOfEra / 4 - yearOfEra / 100)
  let shifted := (5 * dayOfYear + 2) / 153
  let month := if shifted < 10 then shifted + 3 else shifted - 9
  let year := yearOfEra + era * 400 + if month ≤ 2 then 1 else 0
  (year, month, dayOfYear - (153 * shifted + 2) / 5 + 1)

/-- At least `width` characters, with zeros after the sign. -/
def padded (width : Nat) (n : Int) : Text :=
  if n < 0 then '-' :: Text.Decimal.padded (width - 1) n.natAbs else Text.Decimal.padded width n.natAbs

/-- The years that have a time stamp. -/
def hasStamp (year : Int) : Bool :=
  -2147481748 ≤ year && year ≤ 2147483647

/-- A time in seconds since 1970, with milliseconds. Years are not padded. -/
def timeStamp? (time millisecond : Int) : Option Text :=
  let (year, month, day) := dateOf (Int.fdiv time 86400)
  let second := Int.fmod time 86400
  if hasStamp year then
    some (Text.Decimal.ofInt year ++ '-' :: padded 2 month ++ '-' :: padded 2 day ++ ' ' ::
      padded 2 (second / 3600) ++ ':' :: padded 2 (second / 60 % 60) ++ ':' :: padded 2 (second % 60) ++
      ',' :: padded 3 millisecond)
  else none

/-- The line of an entry, or nothing for an entry that has no time stamp. -/
def entryLine (e : Entry) : Text :=
  match timeStamp? e.time e.millisecond with
  | some stamp =>
    stamp ++ ' ' :: levelName e.level ++ ':' :: e.logger ++ ": ".toList ++ e.message ++ ['\n']
  | none => []

def written (detailed : Bool) (e : Entry) : Text :=
  entryLine e ++
    if detailed && 40 ≤ e.level then
      e.path ++ ':' :: Text.Decimal.ofInt e.line ++ "\n<stack>\n".toList
    else []

/-- All that the handlers write, entry after entry. -/
def output (s : Sink) (entries : List Entry) : Text :=
  (entries.filter (admits s)).flatMap fun e => s.detailed.flatMap fun d => written d e

end TagExpander.Journal
