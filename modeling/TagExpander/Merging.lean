import TagExpander.Bisection

/-! Two neighbouring runs, each in order, are merged. Elements that are in place at
both ends stay where they are. The shorter of the two parts that are left is merged
into the longer one from the end where the shorter one lies: an element at a time,
and by a gallop where one part wins again and again. Equal elements stay in their
order. Elements that are neither less, equal nor greater do no harm, but which of
them are compared decides where others come to stand. -/

namespace TagExpander.Merging

variable {α : Type}

/-- How many wins in a row are enough for another gallop, and for the first one. -/
def manyWins : Nat := 7

/-- The end that a merge begins at. Seen from the back, the order is the other one. -/
structure Side (α : Type) where
  lt : α → α → Bool
  front : Bool

def Side.atFront (lt : α → α → Bool) : Side α := ⟨lt, true⟩

def Side.atBack (lt : α → α → Bool) : Side α := ⟨fun a b => lt b a, false⟩

/-- Leaps from place to place while the places are passed, each leap about twice as
far as all before it. Gives the last place that was passed and where the search
for the end goes on to. -/
def leapFrom (passes : Nat → Bool) (size : Nat) : Nat → Nat → Nat → Nat × Nat
  | 0, last, next => (last, next)
  | leaps + 1, last, next =>
    if next < size && passes next then leapFrom passes size leaps next (2 * next + 1)
    else (last, min next size)

/-- The elements at the beginning that are passed, and the rest. -/
def gallop (side : Side α) (passes : α → Bool) (run : List α) : List α × List α :=
  let isPassed (i : Nat) := (run[i]?.map passes).getD false
  if isPassed 0 then
    let (last, next) := leapFrom isPassed run.length run.length 0 1
    run.splitAt
      (Bisection.placeFrom (!isPassed ·) side.front (run.length + 1) (last + 1) next)
  else ([], run)

/-- How a merge goes on: step by step, with the wins in a row of the short run and of
the long one; by gallops, the first of two or the second one after so many
elements; or it is to be decided after two gallops. -/
inductive Pace where
  | stepping (short long : Nat)
  | galloping (first : Option Nat)
  | deciding (first second : Nat)

/-- Merges a short run into a long one. What was merged is kept backwards. So many
wins in a row as there is `patience` begin a gallop; there is less of it after a
gallop that was worth it and more after one that was not. -/
def mergeFrom (side : Side α) : Nat → Pace → Nat → List α → List α → List α → List α × Nat
  | steps + 1, pace, patience, merged, x :: x' :: short, y :: long =>
    match pace with
    | .stepping shortWins longWins =>
      if side.lt y x then
        let pace := if patience ≤ longWins + 1 then .galloping none else .stepping 0 (longWins + 1)
        mergeFrom side steps pace patience (y :: merged) (x :: x' :: short) long
      else
        let pace := if patience ≤ shortWins + 1 then .galloping none else .stepping (shortWins + 1) 0
        mergeFrom side steps pace patience (x :: merged) (x' :: short) (y :: long)
    | .galloping first =>
      if side.front = first.isNone then
        let (passed, rest) := gallop side (!side.lt y ·) (x :: x' :: short)
        let pace := first.elim (.galloping (some passed.length)) (.deciding · passed.length)
        mergeFrom side steps pace patience (y :: (passed.reverse ++ merged)) rest long
      else
        let (passed, rest) := gallop side (side.lt · x) (y :: long)
        let pace := first.elim (.galloping (some passed.length)) (.deciding · passed.length)
        mergeFrom side steps pace patience (x :: (passed.reverse ++ merged)) (x' :: short) rest
    | .deciding first second =>
      if manyWins ≤ max first second then
        mergeFrom side steps (.galloping none) (max 1 (patience - 1)) merged (x :: x' :: short)
          (y :: long)
      else
        mergeFrom side steps (.stepping 0 0) (patience + 1) merged (x :: x' :: short) (y :: long)
  | _, _, patience, merged, short, long => (merged.reverse ++ (long ++ short), patience)

/-- Merges from one end. An element of the long run is the first one; nothing but a
last element of the short run, which follows all others, is merged without a
comparison. Every second step takes an element at least. -/
def mergeAt (side : Side α) (patience : Nat) (short long : List α) : List α × Nat :=
  mergeFrom side (2 * (short.length + long.length)) (.stepping 0 0) patience (long.take 1) short
    (long.drop 1)

/-- Merges two neighbours. The patience that is left goes into the next merge. -/
def merge (lt : α → α → Bool) (patience : Nat) (a b : List α) : List α × Nat :=
  match b with
  | [] => (a, patience)
  | y :: _ =>
    let (lowest, a') := gallop (Side.atFront lt) (!lt y ·) a
    match a'.getLast? with
    | none => (a ++ b, patience)
    | some x =>
      let (highest, back) := gallop (Side.atBack lt) (!lt · x) b.reverse
      let (middle, patience) :=
        if back.isEmpty then (a', patience)
        else if a'.length ≤ back.length then mergeAt (Side.atFront lt) patience a' back.reverse
        else
          let (merged, patience) := mergeAt (Side.atBack lt) patience back a'.reverse
          (merged.reverse, patience)
      (lowest ++ (middle ++ highest.reverse), patience)

end TagExpander.Merging
