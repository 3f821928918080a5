import TagExpander.Registry
import TagExpander.StandIn
import TagExpander.Text.Cut

/-! Markers and the calls they stand for. The marker of a text that is expanded
next ends at the first closing brace and begins at the last opening brace before
it, so it holds no other marker. -/

namespace TagExpander

/-- A marker and the text on either side of it. -/
structure Marker where
  before : Text
  contents : Text
  after : Text
deriving DecidableEq, Repr

namespace Marker

def first? (s : Text) : Option Marker :=
  match s.cut? '}' with
  | none => none
  | some (left, after) =>
    match left.cutLast? '{' with
    | none => none
    | some (before, contents) => some ⟨before, contents, after⟩

/-- The marker itself, with its braces. -/
def braced (contents : Text) : Text :=
  '{' :: contents ++ ['}']

/-- The text that the marker was found in. -/
def whole (m : Marker) : Text :=
  m.before ++ '{' :: m.contents ++ '}' :: m.after

/-- A marker is found if and only if it is in the text, holds no brace, and no
closing brace stands before it. -/
theorem first?_eq_some_iff {s : Text} {m : Marker} :
    first? s = some m ↔
      m.whole = s ∧ '}' ∉ m.before ∧ '{' ∉ m.contents ∧ '}' ∉ m.contents := by
  constructor
  · intro h
    unfold first? at h
    split at h
    · cases h
    · next left after hs =>
      split at h
      · cases h
      · next before contents hl =>
        obtain ⟨rfl, hclose⟩ := Text.cut?_eq_some_iff.1 hs
        obtain ⟨rfl, hopen⟩ := Text.cutLast?_eq_some_iff.1 hl
        cases h
        simp only [List.mem_append, List.mem_cons, not_or] at hclose
        exact ⟨by simp [whole], hclose.1, hopen, hclose.2.2⟩
  · rintro ⟨rfl, hb, ho, hc⟩
    have hs : Text.cut? m.whole '}' = some (m.before ++ '{' :: m.contents, m.after) :=
      Text.cut?_eq_some_iff.2 ⟨by simp [whole], by simp [hb, hc]⟩
    have hl : Text.cutLast? (m.before ++ '{' :: m.contents) '{' = some (m.before, m.contents) :=
      Text.cutLast?_eq_some_iff.2 ⟨rfl, ho⟩
    simp [first?, hs, hl]

/-- Without a closing brace there is no marker. -/
theorem first?_of_notMem {s : Text} (h : '}' ∉ s) : first? s = none := by
  simp [first?, Text.cut?_of_notMem h]

/-- A closing brace that nothing opens ends the search. -/
theorem first?_append_close {a : Text} (hc : '}' ∉ a) (ho : '{' ∉ a) (r : Text) :
    first? (a ++ '}' :: r) = none := by
  simp [first?, Text.cut?_append hc, Text.cutLast?_eq_none_iff.2 ho]

end Marker

/-- The name a marker looks up, and its parameters if it has a colon. -/
structure Call where
  name : Text
  params : Option Text
deriving DecidableEq, Repr

namespace Call

/-- The name ends at the first colon, and has no white space at its ends. -/
def ofText (contents : Text) : Call :=
  match contents.cut? ':' with
  | none => ⟨Text.trim contents, none⟩
  | some (name, params) => ⟨Text.trim name, some params⟩

/-- The call of a marker's contents. Its parameters are restored. -/
def ofContents (contents : Text) : Call :=
  let call := ofText contents
  { call with params := call.params.map StandIn.restore }

end Call

/-- The registered action for a call, if its name and form are known. -/
def Registry.action? {α : Type} (r : Registry α) (c : Call) : Option α :=
  (r.get? c.name).bind (·.action? c.params)

end TagExpander
