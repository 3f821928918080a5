import TagExpander.Text.Basic

/-! Characters that stand in for others while a text is expanded. An escape, a
backslash before `{`, `|` or `}`, is hidden behind one control character; a
shielded text has its braces hidden as well, so nothing in it opens or closes a
marker. Restoring writes back what every stand-in stands for. -/

namespace TagExpander.StandIn

def escapedOpen : Char := '\x12'

def escapedPipe : Char := '\x13'

def escapedClose : Char := '\x14'

def shieldedOpen : Char := '\x15'

def shieldedClose : Char := '\x16'

def all : List Char := [escapedOpen, escapedPipe, escapedClose, shieldedOpen, shieldedClose]

/-- None of the stand-ins occurs. -/
def IsPlain (s : Text) : Prop :=
  ∀ c ∈ s, c ∉ all

instance (s : Text) : Decidable (IsPlain s) :=
  List.decidableBAll (· ∉ all) s

/-- Hides the escapes, the opening ones first. -/
def hide (s : Text) : Text :=
  ((s.replaceAll ['\\', '{'] [escapedOpen]).replaceAll ['\\', '|'] [escapedPipe]).replaceAll
    ['\\', '}'] [escapedClose]

/-- Hides the escapes in one scan. -/
def scan : Text → Text
  | '\\' :: '{' :: r => escapedOpen :: scan r
  | '\\' :: '|' :: r => escapedPipe :: scan r
  | '\\' :: '}' :: r => escapedClose :: scan r
  | c :: r => c :: scan r
  | [] => []

/-- What a hidden escape stands for, with its backslash. -/
def escape? (c : Char) : Option Char :=
  if c = escapedOpen then some '{'
  else if c = escapedPipe then some '|'
  else if c = escapedClose then some '}'
  else none

/-- What a shielded brace stands for. -/
def brace? (c : Char) : Option Char :=
  if c = shieldedOpen then some '{'
  else if c = shieldedClose then some '}'
  else none

/-- Writes the hidden escapes with their backslash. -/
def reveal : Text → Text
  | [] => []
  | c :: r =>
    match escape? c with
    | some d => '\\' :: d :: reveal r
    | none => c :: reveal r

/-- The stand-in for a brace. -/
def shieldChar (c : Char) : Char :=
  if c = '{' then shieldedOpen else if c = '}' then shieldedClose else c

def shield (s : Text) : Text :=
  (scan s).map shieldChar

def restore : Text → Text
  | [] => []
  | c :: r =>
    match escape? c with
    | some d => '\\' :: d :: restore r
    | none => (brace? c).getD c :: restore r

/-- The three replacements one after the other come to one scan. -/
theorem hide_eq_scan (s : Text) : hide s = scan s := by
  have cons_ne : ∀ (b c : Char) (r t : Text), c ≠ '\\' →
      Text.replaceAll (c :: r) ['\\', b] t = c :: Text.replaceAll r ['\\', b] t :=
    fun _ _ _ _ hc => Text.replaceAll_pair_cons (fun e => absurd e hc) _
  induction s using scan.induct with
  | case1 r ih =>
    simp only [hide, scan, Text.replaceAll_pair_match, List.singleton_append] at ih ⊢
    rw [cons_ne '|' escapedOpen _ _ (by decide), cons_ne '}' escapedOpen _ _ (by decide), ih]
  | case2 r ih =>
    simp only [hide, scan] at ih ⊢
    rw [Text.replaceAll_pair_cons (by simp), cons_ne '{' '|' _ _ (by decide),
      Text.replaceAll_pair_match, List.singleton_append, cons_ne '}' escapedPipe _ _ (by decide), ih]
  | case3 r ih =>
    simp only [hide, scan] at ih ⊢
    rw [Text.replaceAll_pair_cons (by simp), cons_ne '{' '}' _ _ (by decide),
      Text.replaceAll_pair_cons (by simp), cons_ne '|' '}' _ _ (by decide),
      Text.replaceAll_pair_match, List.singleton_append, ih]
  | case4 c r h1 h2 h3 ih =>
    have hd : ∀ x, x = '{' ∨ x = '|' ∨ x = '}' → c = '\\' → r.head? ≠ some x := by
      intro x hx hc hr
      cases r with
      | nil => simp at hr
      | cons y r' =>
        simp only [List.head?_cons, Option.some.injEq] at hr
        subst hr
        rcases hx with rfl | rfl | rfl
        · exact h1 r' hc rfl
        · exact h2 r' hc rfl
        · exact h3 r' hc rfl
    rw [scan, ← ih]
    · simp only [hide]
      rw [Text.replaceAll_pair_cons (hd _ (by simp)), Text.replaceAll_pair_cons,
        Text.replaceAll_pair_cons]
      · intro hc h
        rcases Text.head?_replaceAll_pair h with h | h
        · exact absurd h (by decide)
        rcases Text.head?_replaceAll_pair h with h | h
        · exact absurd h (by decide)
        exact hd _ (by simp) hc h
      · intro hc h
        rcases Text.head?_replaceAll_pair h with h | h
        · exact absurd h (by decide)
        exact hd _ (by simp) hc h
    all_goals assumption
  | case5 => rfl

/-- A shielded character is no brace. -/
theorem shieldChar_ne (c : Char) : shieldChar c ≠ '{' ∧ shieldChar c ≠ '}' := by
  unfold shieldChar shieldedOpen shieldedClose
  split
  · decide
  · split
    · decide
    · next h₁ h₂ => exact ⟨h₁, h₂⟩

/-- Nothing in a shielded text opens a marker. -/
theorem open_notMem_shield (s : Text) : '{' ∉ shield s := by
  intro h
  obtain ⟨c, -, hc⟩ := List.mem_map.1 h
  exact (shieldChar_ne c).1 hc

/-- Nothing in a shielded text closes a marker. -/
theorem close_notMem_shield (s : Text) : '}' ∉ shield s := by
  intro h
  obtain ⟨c, -, hc⟩ := List.mem_map.1 h
  exact (shieldChar_ne c).2 hc

/-- A character that stands for no escape and for no brace is no stand-in. -/
theorem notMem_all {c : Char} (he : escape? c = none) (hb : brace? c = none) : c ∉ all := by
  unfold escape? at he
  unfold brace? at hb
  simp only [all, List.mem_cons, List.not_mem_nil, or_false]
  grind

theorem restored_notMem_all {c d : Char} (h : escape? c = some d ∨ brace? c = some d) : d ∉ all := by
  have hd : d = '{' ∨ d = '|' ∨ d = '}' := by
    unfold escape? brace? at h
    grind
  rcases hd with rfl | rfl | rfl <;> decide

/-- A restored text holds no stand-ins. -/
theorem isPlain_restore (s : Text) : IsPlain (restore s) := by
  induction s with
  | nil => exact fun _ h => absurd h List.not_mem_nil
  | cons c r ih =>
    intro x hx
    simp only [restore] at hx
    split at hx
    · next d hd =>
      rcases List.mem_cons.1 hx with rfl | hx
      · decide
      · rcases List.mem_cons.1 hx with rfl | hx
        · exact restored_notMem_all (Or.inl hd)
        · exact ih x hx
    · next he =>
      rcases List.mem_cons.1 hx with rfl | hx
      · cases hb : brace? c with
        | none => simpa [hb] using notMem_all he hb
        | some d => simpa [hb] using restored_notMem_all (Or.inr hb)
      · exact ih x hx

end TagExpander.StandIn
