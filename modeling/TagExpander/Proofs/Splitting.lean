import TagExpander.Params
import Mathlib

/-! Splitting at pipes undoes joining with pipes, and the other way round. A pipe cuts a
text unless a backslash stands directly before it, so the parts that splitting gives are
told by their pipes and by their ends. A text is either in one part, or its first part
ends at the first pipe that cuts; every law of splitting is proved along this division. -/

namespace TagExpander.Params

/-- No pipe of the text cuts it: each one stands directly after a backslash. -/
def Uncut (s : Text) : Prop :=
  ∀ a b, s = a ++ '|' :: b → a.getLast? = some '\\'

/-- The lists of parts that splitting gives. A part behind which another one follows must
not end in a backslash, or the pipe between them would not cut. -/
structure IsSplit (parts : List Text) : Prop where
  nonempty : parts ≠ []
  uncut : ∀ p ∈ parts, Uncut p
  closed : ∀ p ∈ parts.dropLast, p.getLast? ≠ some '\\'

/-- Whether the last character of a text is a backslash. In front of the empty text there
may be one too. -/
def backslashAfter (escaped : Bool) (s : Text) : Bool :=
  (s.getLast?.map (· == '\\')).getD escaped

theorem backslashAfter_cons (escaped : Bool) (c : Char) (s : Text) :
    backslashAfter escaped (c :: s) = backslashAfter (c = '\\') s := by
  cases s with
  | nil => rfl
  | cons d r =>
    rw [backslashAfter, backslashAfter, List.getLast?_cons_cons, List.getLast?_eq_some_getLast (by simp)]
    rfl

theorem backslashAfter_false {s : Text} : backslashAfter false s = true ↔ s.getLast? = some '\\' := by
  cases h : s.getLast? <;> simp [backslashAfter, h]

/-- What no pipe cuts stays in one part with what follows it. -/
theorem splitFrom_append {cuts : Option Nat} {escaped : Bool} {p : Text}
    (h : ∀ a b, p = a ++ '|' :: b → backslashAfter escaped a = true) (r : Text) :
    splitFrom cuts escaped (p ++ r) =
      (splitFrom cuts (backslashAfter escaped p) r).modifyHead (p ++ ·) := by
  induction p generalizing escaped with
  | nil =>
    cases hs : splitFrom cuts escaped r with
    | nil => exact absurd hs (splitFrom_ne_nil _ _ _)
    | cons q qs => simp [backslashAfter, hs]
  | cons c p ih =>
    have hpipe : ¬ (c = '|' ∧ escaped = false ∧ cuts ≠ some 0) := by
      rintro ⟨rfl, rfl, -⟩
      exact absurd (h [] p rfl) (by decide)
    have hrest : ∀ a b, p = a ++ '|' :: b → backslashAfter (c = '\\') a = true := by
      intro a b hp
      rw [← backslashAfter_cons escaped]
      exact h (c :: a) b (by rw [hp]; rfl)
    rw [List.cons_append, splitFrom, if_neg hpipe, ih hrest, backslashAfter_cons, List.modifyHead_modifyHead]
    rfl

theorem splitFrom_of_uncut {s : Text} (h : Uncut s) (cuts : Option Nat) : splitFrom cuts false s = [s] := by
  have hwhole : splitFrom cuts false (s ++ []) = (splitFrom cuts (backslashAfter false s) []).modifyHead (s ++ ·) :=
    splitFrom_append (fun a b hs => backslashAfter_false.2 (h a b hs)) []
  simpa [splitFrom] using hwhole

/-- The first pipe that cuts ends the first part. -/
theorem splitFrom_cut {p : Text} (hp : Uncut p) (hlast : p.getLast? ≠ some '\\') {cuts : Option Nat}
    (hcuts : cuts ≠ some 0) (r : Text) :
    splitFrom cuts false (p ++ '|' :: r) = p :: splitFrom (cuts.map (· - 1)) false r := by
  have hfree : backslashAfter false p = false := by
    rw [← Bool.not_eq_true, backslashAfter_false]
    exact hlast
  rw [splitFrom_append fun a b h => backslashAfter_false.2 (hp a b h), hfree, splitFrom, if_pos ⟨rfl, rfl, hcuts⟩]
  simp

theorem exists_cut {s : Text} (h : ¬ Uncut s) :
    ∃ p r, s = p ++ '|' :: r ∧ Uncut p ∧ p.getLast? ≠ some '\\' := by
  unfold Uncut at h
  push Not at h
  obtain ⟨a, b, hs, ha⟩ := h
  -- a pipe that cuts what stands before it comes earlier
  induction hn : a.length using Nat.strong_induction_on generalizing a b with
  | _ n ih =>
    by_cases hcut : Uncut a
    · exact ⟨a, b, hs, hcut, ha⟩
    · unfold Uncut at hcut
      push Not at hcut
      obtain ⟨a', b', ha', hlast⟩ := hcut
      refine ih a'.length ?_ a' (b' ++ '|' :: b) ?_ hlast rfl
      · rw [← hn, ha']
        simp
      · rw [hs, ha']
        simp

/-- A text is divided part by part. -/
@[elab_as_elim]
theorem cut_induction {motive : Text → Prop} (uncut : ∀ s, Uncut s → motive s)
    (cut : ∀ p r, Uncut p → p.getLast? ≠ some '\\' → motive r → motive (p ++ '|' :: r)) (s : Text) :
    motive s := by
  induction hn : s.length using Nat.strong_induction_on generalizing s with
  | _ n ih =>
    by_cases h : Uncut s
    · exact uncut s h
    · obtain ⟨p, r, hs, hp, hlast⟩ := exists_cut h
      subst hs
      refine cut p r hp hlast (ih r.length ?_ r rfl)
      simp only [List.length_append, List.length_cons] at hn
      omega

theorem split_of_uncut {s : Text} (h : Uncut s) : split s = [s] := splitFrom_of_uncut h none

theorem split_cut {p : Text} (hp : Uncut p) (hlast : p.getLast? ≠ some '\\') (r : Text) :
    split (p ++ '|' :: r) = p :: split r := splitFrom_cut hp hlast (by simp) r

theorem splitMost_of_uncut {s : Text} (h : Uncut s) (n : Nat) : splitMost n s = [s] :=
  splitFrom_of_uncut h (some n)

theorem splitMost_cut {p : Text} (hp : Uncut p) (hlast : p.getLast? ≠ some '\\') (n : Nat) (r : Text) :
    splitMost (n + 1) (p ++ '|' :: r) = p :: splitMost n r := splitFrom_cut hp hlast (by simp) r

@[simp] theorem join_split (s : Text) : join (split s) = s := join_splitFrom none false s

theorem join_cons {p : Text} {parts : List Text} (h : parts ≠ []) :
    join (p :: parts) = p ++ '|' :: join parts := by
  cases parts with
  | nil => exact absurd rfl h
  | cons q qs => simp [join, List.intercalate]

theorem infix_join {p : Text} {parts : List Text} (h : p ∈ parts) : p <:+: join parts := by
  induction parts with
  | nil => exact absurd h List.not_mem_nil
  | cons q qs ih =>
    by_cases hqs : qs = []
    · subst hqs
      obtain rfl := List.mem_singleton.1 h
      simp [join, List.intercalate]
    · rw [join_cons hqs]
      rcases List.mem_cons.1 h with rfl | h
      · exact (List.prefix_append _ _).isInfix
      · exact ((ih h).trans (List.suffix_cons _ _).isInfix).trans (List.suffix_append _ _).isInfix

theorem infix_of_mem_split {p s : Text} (h : p ∈ split s) : p <:+: s := by
  simpa using infix_join h

theorem IsSplit.singleton {s : Text} (h : Uncut s) : IsSplit [s] :=
  ⟨by simp, by simpa using h, by simp⟩

theorem IsSplit.cons {p : Text} {parts : List Text} (hp : Uncut p) (hlast : p.getLast? ≠ some '\\')
    (h : IsSplit parts) : IsSplit (p :: parts) where
  nonempty := by simp
  uncut := by simpa using ⟨hp, h.uncut⟩
  closed := by
    rw [List.dropLast_cons_of_ne_nil h.nonempty]
    simpa using ⟨hlast, h.closed⟩

theorem isSplit_split (s : Text) : IsSplit (split s) := by
  induction s using cut_induction with
  | uncut s h =>
    rw [split_of_uncut h]
    exact .singleton h
  | cut p r hp hlast ih =>
    rw [split_cut hp hlast]
    exact ih.cons hp hlast

theorem split_join {parts : List Text} (h : IsSplit parts) : split (join parts) = parts := by
  induction parts with
  | nil => exact absurd rfl h.nonempty
  | cons p parts ih =>
    have hp : Uncut p := h.uncut p (by simp)
    by_cases hparts : parts = []
    · subst hparts
      simpa [join, List.intercalate] using split_of_uncut hp
    · have hclosed := h.closed
      rw [List.dropLast_cons_of_ne_nil hparts] at hclosed
      have hrest : IsSplit parts :=
        ⟨hparts, fun q hq => h.uncut q (List.mem_cons_of_mem _ hq),
          fun q hq => hclosed q (List.mem_cons_of_mem _ hq)⟩
      rw [join_cons hparts, split_cut hp (hclosed p (by simp)), ih hrest]

/-- With a limit the first cuts are made, and all that follows them stays together. -/
theorem splitMost_eq (n : Nat) (s : Text) :
    splitMost n s =
      if (split s).length ≤ n + 1 then split s else (split s).take n ++ [join ((split s).drop n)] := by
  induction s using cut_induction generalizing n with
  | uncut s h => simp [splitMost_of_uncut h, split_of_uncut h]
  | cut p r hp hlast ih =>
    rw [split_cut hp hlast]
    cases n with
    | zero => simp [join_cons (split_ne_nil r), split_ne_nil r]
    | succ n =>
      rw [splitMost_cut hp hlast, ih]
      by_cases hn : (split r).length ≤ n + 1
      · simp [hn]
      · simp [hn]

theorem splitWithin_of_inRange {limit : Int} (hlow : -2 ^ 63 ≤ limit) (hhigh : limit < 2 ^ 63) (s : Text) :
    splitWithin limit s = .ok (if limit = 0 then split s else splitMost limit.toNat s) := by
  have hrange : ¬ (limit < -(Nat.pow 2 63) ∨ (Nat.pow 2 63 : Int) ≤ limit) := by
    change ¬ (limit < -2 ^ 63 ∨ 2 ^ 63 ≤ limit)
    omega
  rw [splitWithin, if_neg hrange]
  split_ifs <;> rfl

/-- Splitting gives a list of parts in which each pipe comes after a backslash and none but
the last part ends in one, and joined with pipes they are the text again. Every list of
this kind is what its joined text is split into, so there is no other one for a text.
With a positive limit, parts beyond it stay joined; a negative limit leaves the text whole.
A limit has to be a signed number of 64 bits. -/
theorem split_inverts_join :
    (∀ s, IsSplit (split s) ∧ join (split s) = s) ∧
    (∀ parts, IsSplit parts → split (join parts) = parts) ∧
    (∀ s, ∀ k : Nat, 0 < k → k < 2 ^ 63 → splitWithin k s = .ok
      (if (split s).length ≤ k + 1 then split s else (split s).take k ++ [join ((split s).drop k)])) ∧
    (∀ s, ∀ limit : Int, -2 ^ 63 ≤ limit → limit < 0 → splitWithin limit s = .ok [s]) ∧
    (∀ s, splitWithin 0 s = .ok (split s)) ∧
    ∀ s, ∀ limit : Int, limit < -2 ^ 63 ∨ 2 ^ 63 ≤ limit → splitWithin limit s = .error .outOfRange := by
  refine ⟨fun s => ⟨isSplit_split s, join_split s⟩, fun parts h => split_join h, fun s k hpos hk => ?_,
    fun s limit hlow hneg => ?_, fun s => rfl, fun s limit h => ?_⟩
  · rw [splitWithin_of_inRange (by omega) (by omega), if_neg (by omega), Int.toNat_natCast, splitMost_eq]
  · rw [splitWithin_of_inRange hlow (by omega), if_neg hneg.ne, Int.toNat_of_nonpos hneg.le, splitMost_zero]
  · exact if_pos h

/-- An empty part in front and one between, and pipes after one backslash and after two. -/
theorem split_inverts_join_sample :
    let s := "|a\\\\|b||c\\|d".toList
    let parts : List Text := [[], "a\\\\|b".toList, [], "c\\|d".toList]
    IsSplit parts ∧ join parts = s ∧ split s = parts ∧
      splitWithin 2 s = .ok [[], "a\\\\|b".toList, "|c\\|d".toList] ∧
      splitWithin (-7) s = .ok [s] ∧ splitWithin (-2 ^ 63 - 1) s = .error .outOfRange := by
  intro s parts
  obtain ⟨hsplit, hjoin, hmost, hnone, -, hrange⟩ := split_inverts_join
  have hparts : IsSplit parts := (hsplit s).1
  exact ⟨hparts, (hsplit s).2, hjoin parts hparts, hmost s 2 (by decide) (by decide),
    hnone s (-7) (by decide) (by decide), hrange s _ (by decide)⟩

/-- A limit that no signed number of 64 bits can hold is refused, though a single cut
would split the text. -/
theorem splitWithin_refuses :
    let s := "a|b".toList
    let k : Nat := 2 ^ 63
    0 < k ∧ (split s).length ≤ k + 1 ∧ splitWithin k s ≠ .ok (split s) := by
  decide

end TagExpander.Params
