import TagExpander.Merging

/-! Sorts by runs. A list is cut into runs that are in order already; a short one is
made longer by putting the elements behind it into their places. Neighbours are
merged, earlier where the middles of two runs lie closer together, seen as parts
of the whole list. Equal elements stay in their order. -/

namespace TagExpander.Sorting

variable {α : Type}

/-- The longest beginning in which every element `fits` the one before it. -/
def chain (fits : α → α → Bool) : α → List α → List α × List α
  | _, [] => ([], [])
  | last, x :: r =>
    if fits last x then
      let (run, rest) := chain fits x r
      (x :: run, rest)
    else ([], x :: r)

/-- The beginning in order, and the rest. A beginning that goes down is turned
round. -/
def cut (lt : α → α → Bool) : List α → List α × List α
  | x :: y :: r =>
    if lt y x then
      let (run, rest) := chain (fun a b => lt b a) y r
      ((x :: y :: run).reverse, rest)
    else
      let (run, rest) := chain (fun a b => !lt b a) y r
      (x :: y :: run, rest)
  | l => (l, [])

/-- Puts an element into its place, behind its equals. -/
def insert (lt : α → α → Bool) (sorted : Array α) (x : α) : Array α :=
  sorted.insertIdxIfInBounds (Bisection.place (lt x ·) sorted) x

/-- The least size of a run: the first binary places of `n`, one more if anything
but zeros follows them. -/
def leastRun (n : Nat) (more : Nat) : Nat :=
  if 64 ≤ n then leastRun (n / 2) (max more (n % 2)) else n + more
termination_by n

/-- Cuts a list into runs of a least size. The last one may be shorter. -/
def runsFrom (lt : α → α → Bool) (least : Nat) : Nat → List α → List (List α)
  | _, [] => []
  | 0, l => [l]
  | cuts + 1, l =>
    let (run, rest) := cut lt l
    let missing := least - run.length
    ((rest.take missing).foldl (insert lt) run.toArray).toList ::
      runsFrom lt least cuts (rest.drop missing)

def runs (lt : α → α → Bool) (l : List α) : List (List α) :=
  runsFrom lt (leastRun l.length 0) l.length l

/-- The first binary place in which `a / n` and `b / n` differ. -/
def powerFrom (n : Nat) : Nat → Nat → Nat → Nat
  | 0, _, _ => 0
  | places + 1, a, b =>
    if n ≤ a then powerFrom n places (2 * (a - n)) (2 * (b - n)) + 1
    else if n ≤ b then 1
    else powerFrom n places (2 * a) (2 * b) + 1

/-- The power of two neighbours among `n` elements: how far the middles of both, as
parts of the whole, agree. The first one has `size` elements and begins at
`start`. -/
def power (n start size next : Nat) : Nat :=
  let middle := 2 * start + size
  powerFrom n (n + 1) middle (middle + size + next)

/-- Runs that wait to be merged: the last one, and the ones before it from the back,
each with the power of it and the one behind it. -/
structure Waiting (α : Type) where
  last : List α
  before : List (Nat × List α)
  patience : Nat

/-- Merges the last runs while their power is greater than the one to come. -/
def collapse (lt : α → α → Bool) (power : Nat) (last : List α) (patience : Nat) :
    List (Nat × List α) → Waiting α
  | [] => ⟨last, [], patience⟩
  | (p, run) :: before =>
    if power < p then
      let (last, patience) := Merging.merge lt patience run last
      collapse lt power last patience before
    else ⟨last, (p, run) :: before, patience⟩

def Waiting.push (lt : α → α → Bool) (n : Nat) (w : Waiting α) (run : List α) : Waiting α :=
  let start := w.before.foldl (fun n run => n + run.2.length) 0
  let p := power n start w.last.length run.length
  let w := collapse lt p w.last w.patience w.before
  { w with last := run, before := (p, w.last) :: w.before }

/-- Merges what waits, from the back. The last run but one goes to the smaller of
its neighbours. -/
def mergeAll (lt : α → α → Bool) (patience : Nat) (last : List α) :
    List (Nat × List α) → List α
  | [] => last
  | [(_, b)] => (Merging.merge lt patience b last).1
  | (_, b) :: (p, a) :: before =>
    if a.length < last.length then
      let (ab, patience) := Merging.merge lt patience a b
      mergeAll lt patience last ((p, ab) :: before)
    else
      let (last, patience) := Merging.merge lt patience b last
      mergeAll lt patience last ((p, a) :: before)
termination_by before => before.length

def sort (lt : α → α → Bool) (l : List α) : List α :=
  match runs lt l with
  | [] => []
  | first :: rest =>
    let w := rest.foldl (Waiting.push lt l.length) ⟨first, [], Merging.manyWins⟩
    mergeAll lt w.patience w.last w.before

end TagExpander.Sorting
