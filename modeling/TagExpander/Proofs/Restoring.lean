import TagExpander.Marker
import Mathlib

/-! What stand-ins mean. Restoring reads a text character by character, so it goes
through appended texts, and it does not see whether a text was hidden or shielded
before. Hiding goes through appended texts unless an escape lies across the seam. -/

namespace TagExpander.StandIn

theorem mem_all {c : Char} : c ∈ all ↔ c = escapedOpen ∨ c = escapedPipe ∨ c = escapedClose ∨ c = shieldedOpen ∨
    c = shieldedClose := by
  simp [all]

/-- What one character stands for. -/
def meaning (c : Char) : Text :=
  (escape? c).elim [(brace? c).getD c] fun d => ['\\', d]

theorem restore_eq_flatMap (s : Text) : restore s = s.flatMap meaning := by
  induction s with
  | nil => rfl
  | cons c r ih =>
    rw [restore, List.flatMap_cons, meaning, ← ih]
    cases escape? c <;> rfl

@[simp] theorem restore_nil : restore [] = [] := rfl

@[simp] theorem restore_append (a b : Text) : restore (a ++ b) = restore a ++ restore b := by
  simp only [restore_eq_flatMap, List.flatMap_append]

theorem restore_cons (c : Char) (r : Text) : restore (c :: r) = meaning c ++ restore r := by
  simp only [restore_eq_flatMap, List.flatMap_cons]

theorem meaning_of_notMem {c : Char} (h : c ∉ all) : meaning c = [c] := by
  simp only [all, List.mem_cons, List.not_mem_nil, or_false, not_or] at h
  simp [meaning, escape?, brace?, h]

theorem restore_cons_of_notMem {c : Char} (h : c ∉ all) (r : Text) : restore (c :: r) = c :: restore r := by
  rw [restore_cons, meaning_of_notMem h, List.singleton_append]

theorem restore_of_isPlain {s : Text} (h : IsPlain s) : restore s = s := by
  induction s with
  | nil => rfl
  | cons c r ih =>
    rw [restore_cons_of_notMem (h c (by simp)), ih fun x hx => h x (List.mem_cons_of_mem _ hx)]

theorem meaning_shieldChar (c : Char) : meaning (shieldChar c) = meaning c := by
  unfold shieldChar
  split_ifs with h₁ h₂
  · subst h₁; decide
  · subst h₂; decide
  · rfl

/-- What a backslash makes an escape. -/
def escapable : List Char := ['{', '|', '}']

theorem mem_escapable {c : Char} : c ∈ escapable ↔ c = '{' ∨ c = '|' ∨ c = '}' := by
  simp [escapable]

def hidden (c : Char) : Char :=
  if c = '{' then escapedOpen else if c = '|' then escapedPipe else escapedClose

theorem meaning_hidden {c : Char} (h : c ∈ escapable) : meaning (hidden c) = ['\\', c] := by
  rcases mem_escapable.1 h with rfl | rfl | rfl <;> decide

theorem hidden_ne {c : Char} (h : c ∈ escapable) : hidden c ≠ '{' ∧ hidden c ≠ '}' := by
  rcases mem_escapable.1 h with rfl | rfl | rfl <;> decide

theorem hidden_mem_all {c : Char} (h : c ∈ escapable) : hidden c ∈ all := by
  rcases mem_escapable.1 h with rfl | rfl | rfl <;> decide

theorem ne_backslash {c : Char} (h : c ∈ escapable) : c ≠ '\\' := by
  rintro rfl
  exact absurd h (by decide)

theorem ne_of_notMem_escapable {c : Char} (h : c ∉ escapable) : c ≠ '{' ∧ c ≠ '}' := by
  constructor <;> rintro rfl <;> exact h (by decide)

theorem meaning_of_mem {c : Char} (h : c ∈ all) :
    (∃ d ∈ escapable, meaning c = ['\\', d]) ∨ meaning c = ['{'] ∨ meaning c = ['}'] := by
  rcases mem_all.1 h with rfl | rfl | rfl | rfl | rfl
  · exact Or.inl ⟨'{', by decide, by decide⟩
  · exact Or.inl ⟨'|', by decide, by decide⟩
  · exact Or.inl ⟨'}', by decide, by decide⟩
  · exact Or.inr (Or.inl (by decide))
  · exact Or.inr (Or.inr (by decide))

theorem mem_escapable_of_mem_meaning {c d : Char} (h : c ∈ all) (hd : d ∈ meaning c) :
    d ∈ '\\' :: escapable := by
  rcases meaning_of_mem h with ⟨x, hx, he⟩ | he | he <;> rw [he] at hd
  · rcases List.mem_pair.1 hd with rfl | rfl
    · exact List.mem_cons_self
    · exact List.mem_cons_of_mem _ hx
  · rw [List.mem_singleton.1 hd]
    decide
  · rw [List.mem_singleton.1 hd]
    decide

def Straddles (a b : Text) : Prop :=
  a.getLast? = some '\\' ∧ ∃ c ∈ b.head?, c ∈ escapable

theorem scan_escape {c : Char} (h : c ∈ escapable) (r : Text) :
    scan ('\\' :: c :: r) = hidden c :: scan r := by
  rcases mem_escapable.1 h with rfl | rfl | rfl <;> rfl

theorem scan_cons {c : Char} {r : Text} (h : ¬ Straddles [c] r) : scan (c :: r) = c :: scan r := by
  rw [scan.eq_def]
  split
  · next he => cases he; exact absurd ⟨rfl, '{', rfl, by decide⟩ h
  · next he => cases he; exact absurd ⟨rfl, '|', rfl, by decide⟩ h
  · next he => cases he; exact absurd ⟨rfl, '}', rfl, by decide⟩ h
  · next c' r' _ _ _ he => cases he; rfl
  · next he => cases he

/-- A text is read as its scan reads it: an escape at a time, or else a character
that begins none. -/
@[elab_as_elim]
theorem scan_induction {motive : Text → Prop} (nil : motive [])
    (escape : ∀ c r, c ∈ escapable → motive r → motive ('\\' :: c :: r))
    (char : ∀ c r, ¬ Straddles [c] r → motive r → motive (c :: r)) (s : Text) : motive s := by
  induction s using scan.induct with
  | case1 r ih => exact escape '{' r (by decide) ih
  | case2 r ih => exact escape '|' r (by decide) ih
  | case3 r ih => exact escape '}' r (by decide) ih
  | case4 c r h1 h2 h3 ih =>
    refine char c r ?_ ih
    rintro ⟨hc, d, hd, he⟩
    cases r with
    | nil => simp at hd
    | cons x r =>
      simp only [List.getLast?_singleton, List.head?_cons, Option.mem_def, Option.some.injEq] at hc hd
      subst hd
      rcases mem_escapable.1 he with rfl | rfl | rfl
      · exact h1 r hc rfl
      · exact h2 r hc rfl
      · exact h3 r hc rfl
  | case5 => exact nil

theorem restore_scan (s : Text) : restore (scan s) = restore s := by
  induction s using scan_induction with
  | nil => rfl
  | escape c r hc ih =>
    have hd : c ∉ all := by
      intro h
      rcases mem_escapable.1 hc with rfl | rfl | rfl <;> exact absurd h (by decide)
    rw [scan_escape hc, restore_cons, meaning_hidden hc, ih, restore_cons_of_notMem (by decide),
      restore_cons_of_notMem hd]
    rfl
  | char c r h ih => rw [scan_cons h, restore_cons, restore_cons, ih]

theorem restore_shield (s : Text) : restore (shield s) = restore s := by
  rw [← restore_scan s, shield, restore_eq_flatMap, restore_eq_flatMap, List.flatMap_map]
  simp only [meaning_shieldChar]

theorem scan_append {a b : Text} (h : ¬ Straddles a b) : scan (a ++ b) = scan a ++ scan b := by
  induction a using scan_induction with
  | nil => rfl
  | escape c r hc ih =>
    rw [List.cons_append, List.cons_append, scan_escape hc, scan_escape hc, ih, List.cons_append]
    rintro ⟨hr, hb⟩
    refine h ⟨?_, hb⟩
    cases r with
    | nil => simp at hr
    | cons x r => simpa using hr
  | char c r hc ih =>
    cases r with
    | nil => rw [List.singleton_append, scan_cons h, scan_cons hc]; rfl
    | cons x r =>
      rw [List.cons_append, scan_cons hc, scan_cons, ih, List.cons_append]
      · rintro ⟨hr, hb⟩
        exact h ⟨by simpa using hr, hb⟩
      · rintro ⟨hl, d, hd, he⟩
        exact hc ⟨hl, d, by simpa using hd, he⟩

theorem getLast?_append_ne {a b : Text} {c : Char} (ha : a.getLast? ≠ some c) (hb : b.getLast? ≠ some c) :
    (a ++ b).getLast? ≠ some c := by
  rw [List.getLast?_append]
  cases hlast : b.getLast? with
  | none => exact ha
  | some d =>
    rw [hlast] at hb
    exact hb

theorem scan_append_of_getLast? {a : Text} (h : a.getLast? ≠ some '\\') (b : Text) :
    scan (a ++ b) = scan a ++ scan b :=
  scan_append fun hs => h hs.1

theorem scan_eq_self {s : Text} (h : ∀ c ∈ escapable, ¬ ['\\', c] <:+: s) : scan s = s := by
  induction s using scan_induction with
  | nil => rfl
  | escape c r hc _ => exact absurd (List.IsPrefix.isInfix ⟨r, rfl⟩) (h c hc)
  | char c r hs ih => rw [scan_cons hs, ih fun d hd hin => h d hd (List.infix_cons hin)]

theorem scan_of_notMem {s : Text} (h : ∀ c ∈ s, c ∉ escapable) : scan s = s :=
  scan_eq_self fun _ hc hin => h _ (hin.subset (by simp)) hc

/-- The braces of a marker are no escapes, if no backslash stands before the closing one. -/
theorem scan_braced {contents : Text} (h : contents.getLast? ≠ some '\\') :
    scan (Marker.braced contents) = Marker.braced (scan contents) := by
  have hopen : ¬ Straddles ['{'] (contents ++ ['}']) := fun hs => absurd hs.1 (by decide)
  have hclose : scan ['}'] = ['}'] := rfl
  rw [Marker.braced, Marker.braced, List.cons_append, scan_cons hopen, scan_append_of_getLast? h, hclose,
    List.cons_append]

end TagExpander.StandIn
