import TagExpander.Dice.Expr

/-! Rolled trees. A dropped part stays in the tree and counts for nothing. The
members of a node are what its operations keep, drop or look at: the single dice
of dice, the elements of a set, and what is inside of a parenthesis; any other
node is its own only member. -/

namespace TagExpander.Dice

/-- One roll of a die: the amounts it had, the last of them the current one. -/
structure Face where
  history : List Amount
  exploded : Bool
  kept : Bool
deriving Repr

structure Die where
  faces : List Face
  kept : Bool
deriving Repr

/-- What goes with every node. -/
structure Mark where
  kept : Bool
  remark : Text
deriving Repr

inductive Node where
  | number (a : Amount) (mark : Mark)
  | dice (count : Nat) (sides : Sides) (dice : List Die) (operations : List Operation) (mark : Mark)
  | signed (s : Sign) (e : Node) (mark : Mark)
  | binary (l : Node) (op : Operator) (r : Node) (mark : Mark)
  | paren (e : Node) (operations : List Operation) (mark : Mark)
  | set (elements : List Node) (operations : List Operation) (mark : Mark)
deriving Repr

/-- Kept, and without annotations. -/
def Mark.plain : Mark := ⟨true, []⟩

/-- A sum from left to right. -/
def sum (amounts : List Amount) : Except Fault Amount :=
  amounts.foldlM (Arithmetic.add.apply ·) (.int 0)

def Face.fresh (n : Nat) : Face := ⟨[.int n], false, true⟩

def Face.amount (f : Face) : Amount :=
  f.history.getLast?.getD (.int 0)

namespace Die

/-- The sum of the kept rolls. Only the last roll of a die is ever kept. -/
def amount (d : Die) : Except Fault Amount :=
  sum ((d.faces.filter (·.kept)).map Face.amount)

def dropped (d : Die) : Die := { d with kept := false }

def modifyLast (f : Face → Face) (d : Die) : Die :=
  { d with faces := d.faces.mapIdx fun i x => if i + 1 = d.faces.length then f x else x }

end Die

/-- The kept dice, each with its place. -/
def keptDice (ds : List Die) : Except Fault (List (Nat × Amount)) :=
  (ds.zipIdx.filter (·.1.kept)).mapM fun (d, i) => d.amount.map (i, ·)

/-- Changes the elements at some places. -/
def modifyAt {α : Type} (places : List Nat) (f : α → α) (xs : List α) : List α :=
  xs.mapIdx fun i x => if places.contains i then f x else x

namespace Node

def mark : Node → Mark
  | number _ m | dice _ _ _ _ m | signed _ _ m | binary _ _ _ m | paren _ _ m | set _ _ m => m

def setMark (m : Mark) : Node → Node
  | number a _ => number a m
  | dice c s ds os _ => dice c s ds os m
  | signed s e _ => signed s e m
  | binary l op r _ => binary l op r m
  | paren e os _ => paren e os m
  | set es os _ => set es os m

def isKept (n : Node) : Bool :=
  n.mark.kept

def dropped (n : Node) : Node :=
  n.setMark { n.mark with kept := false }

def annotate (remark : Text) (n : Node) : Node :=
  n.setMark { n.mark with remark }

mutual

/-- The amount of a node, zero if it is dropped. -/
def total : Node → Except Fault Amount
  | number a m => .ok (if m.kept then a else .int 0)
  | dice _ _ ds _ m =>
    if m.kept then do sum ((← keptDice ds).map Prod.snd) else .ok (.int 0)
  | signed s e m => if m.kept then (total e).map s.apply else .ok (.int 0)
  | binary l op r m =>
    if m.kept then do
      let a ← total l
      let b ← total r
      op.apply a b
    else .ok (.int 0)
  | paren e _ m => if m.kept then total e else .ok (.int 0)
  | set es _ m => if m.kept then totalOnto (.int 0) es else .ok (.int 0)

/-- The kept elements' amounts, added to `a` from left to right. -/
def totalOnto (a : Amount) : List Node → Except Fault Amount
  | [] => .ok a
  | n :: r =>
    if n.isKept then do
      let b ← total n
      totalOnto (← Arithmetic.add.apply a b) r
    else totalOnto a r

end

/-- The amounts of the kept members, each with its place. -/
def members : Node → Except Fault (List (Nat × Amount))
  | dice _ _ ds _ _ => keptDice ds
  | paren e _ _ => members e
  | set es _ _ => (es.zipIdx.filter (·.1.isKept)).mapM fun (n, i) => n.total.map (i, ·)
  | n => if n.isKept then n.total.map fun a => [(0, a)] else .ok []

/-- Drops the members at some places. -/
def dropMembers (places : List Nat) : Node → Node
  | dice c s ds os m => dice c s (modifyAt places Die.dropped ds) os m
  | paren e os m => paren (e.dropMembers places) os m
  | set es os m => set (modifyAt places dropped es) os m
  | n => if places.contains 0 then n.dropped else n

/-- The total without its fraction. -/
def wholeTotal (n : Node) : Except Fault Int := do
  (← n.total).truncate

end Node

end TagExpander.Dice
