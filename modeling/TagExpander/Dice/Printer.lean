import TagExpander.Dice.Roll

/-! Writes rolled trees. Dropped parts are struck out, once for a part and all that
is inside it; the lowest and the highest roll of a die stand out. -/

namespace TagExpander.Dice

def spaced : Text := ", ".toList

/-- Strikes out what is dropped, unless it stands inside a dropped part. `inner`
writes the part, told whether it stands in a dropped one. -/
def struck (kept inDropped : Bool) (inner : Bool → Text) : Text :=
  if kept || inDropped then inner inDropped else "~~".toList ++ inner true ++ "~~".toList

def Face.shown (f : Face) (inDropped : Bool) : Text :=
  struck f.kept inDropped fun _ =>
    List.intercalate " -> ".toList (f.history.map Amount.shown) ++ if f.exploded then ['!'] else []

/-- Amount one, or the number of sides. -/
def Face.standsOut (sides : Sides) (f : Face) : Bool :=
  f.amount.same (.int 1) ||
    match sides with
    | .count n => f.amount.same (.int n)
    | .percent => false

def Die.shown (sides : Sides) (inDropped : Bool) (d : Die) : Text :=
  struck d.kept inDropped fun inside =>
    List.intercalate spaced (d.faces.map fun f =>
      if f.standsOut sides then "**".toList ++ f.shown inside ++ "**".toList else f.shown inside)

def operationsShown (os : List Operation) : Text :=
  os.flatMap Operation.shown

/-- An annotation follows after a space. -/
def annotatedWith (m : Mark) (t : Text) : Text :=
  if m.remark.isEmpty then t else t ++ ' ' :: m.remark

namespace Node

mutual

def shown (inDropped : Bool) : Node → Text
  | number a m => struck m.kept inDropped fun _ => annotatedWith m a.shown
  | dice c s ds os m => struck m.kept inDropped fun inside =>
    annotatedWith m (Text.Decimal.ofNat c ++ 'd' :: s.shown ++ operationsShown os ++ " (".toList ++
      List.intercalate spaced (ds.map (Die.shown s inside)) ++ [')'])
  | signed s e m => struck m.kept inDropped fun inside =>
    annotatedWith m (s.shown ++ shown inside e)
  | binary l op r m => struck m.kept inDropped fun inside =>
    annotatedWith m (shown inside l ++ ' ' :: op.shown ++ ' ' :: shown inside r)
  | paren e os m => struck m.kept inDropped fun inside =>
    annotatedWith m ('(' :: shown inside e ++ ')' :: operationsShown os)
  | set ms os m => struck m.kept inDropped fun inside =>
    annotatedWith m ('(' :: shownAll inside ms ++ (if ms.length = 1 then [',', ')'] else [')']) ++
      operationsShown os)

def shownAll (inDropped : Bool) : List Node → Text
  | [] => []
  | [n] => shown inDropped n
  | n :: r => shown inDropped n ++ spaced ++ shownAll inDropped r

end

mutual

/-- How deep a tree is nested, for writing: dice and sets count more than other
parts. -/
def depth : Node → Nat
  | number _ _ => 0
  | dice _ _ ds _ _ => if ds.isEmpty then 0 else 7
  | signed _ e _ => e.depth + 3
  | binary l _ r _ => max l.depth r.depth + 3
  | paren e _ _ => e.depth + 3
  | set es _ _ => depthAll es + 4

def depthAll : List Node → Nat
  | [] => 0
  | n :: r => max n.depth (depthAll r)

end

/-- The total alone. -/
def totalText (n : Node) : Except Fault Text := do
  match Text.Decimal.ofInt? (← n.wholeTotal) with
  | some t => pure t
  | none => throw (.number .tooManyDigits)

/-- The tree and its total. A tree that is nested deeper than `reach` is not written. -/
def fullText (reach : Nat) (n : Node) : Except Fault Text := do
  if reach < n.depth then throw .nestedTooDeep
  let t ← n.totalText
  pure (n.shown false ++ " = \x60".toList ++ t ++ "\x60".toList)

end Node

end TagExpander.Dice
