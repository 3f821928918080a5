import TagExpander.Brackets
import TagExpander.Proofs.Course
import TagExpander.Proofs.Restoring

/-! Which braces an expansion pairs. They are the pairs of the input, whatever the
methods answer: each visit is closed by the closing brace of its pair, and a marker
that holds no other one is read as it was written. -/

namespace TagExpander

variable {σ τ : Type}

open StandIn

namespace Brackets

theorem pairsFrom_of_head (i : Nat) (opened : List Nat) (e : Bool) {r : Text}
    (h : ∀ c ∈ r.head?, c ≠ '{' ∧ c ≠ '}') : pairsFrom i opened e r = pairsFrom i opened false r := by
  cases r with
  | nil => simp [pairsFrom]
  | cons c r =>
    obtain ⟨ho, hc⟩ := h c rfl
    rw [pairsFrom.eq_def, pairsFrom.eq_def]
    simp [ho, hc]

theorem pairsFrom_char (i : Nat) (opened : List Nat) {c : Char} {r : Text} (ho : c ≠ '{') (hc : c ≠ '}')
    (h : ¬ Straddles [c] r) : pairsFrom i opened false (c :: r) = pairsFrom (i + 1) opened false r := by
  rw [pairsFrom.eq_def]
  simp only [ho, hc, false_and, if_false]
  by_cases hslash : c = '\\'
  · exact pairsFrom_of_head _ _ _ fun x hx =>
      ne_of_notMem_escapable fun hmem => h ⟨by simp [hslash], x, hx, hmem⟩
  · simp [hslash]

theorem pairsFrom_escape (i : Nat) (opened : List Nat) {c : Char} (hc : c ∈ escapable) (r : Text) :
    pairsFrom i opened false ('\\' :: c :: r) = pairsFrom (i + 2) opened false r := by
  rw [pairsFrom.eq_def]
  simp only [show ('\\' = '{') = False by decide, show ('\\' = '}') = False by decide, false_and, if_false]
  rw [pairsFrom.eq_def]
  simp [ne_backslash hc]

theorem pairsFrom_open (i : Nat) (opened : List Nat) (r : Text) :
    pairsFrom i opened false ('{' :: r) = pairsFrom (i + 1) (i :: opened) false r := by
  rw [pairsFrom.eq_def]
  simp

theorem pairsFrom_close (i o : Nat) (opened : List Nat) (r : Text) :
    pairsFrom i (o :: opened) false ('}' :: r) = ⟨o, i⟩ :: pairsFrom (i + 1) opened false r := by
  rw [pairsFrom.eq_def]
  simp

theorem pairsFrom_unmatched (i : Nat) (r : Text) : pairsFrom i [] false ('}' :: r) = [] := by
  rw [pairsFrom.eq_def]
  simp

namespace Pair

def between (p : Pair) (s : Text) : Text := (s.take p.closing).drop (p.opening + 1)

def Innermost (p : Pair) (s : Text) : Prop :=
  ∀ q ∈ pairs s, ¬ (p.opening < q.opening ∧ q.closing < p.closing)

end Pair

/-- A scan of `input` has come behind `a`. The braces at `opened` are open, the pairs
`done` are closed, and `top` is what a sweep has behind the innermost open brace:
the text as it was written, or else some pair behind that brace is closed. -/
structure Reached (input a r : Text) (opened : List Nat) (done : List Pair) (top : Text) : Prop where
  text : a ++ r = input
  pairs : done ++ pairsFrom a.length opened false r = pairs input
  seam : ¬ Straddles a r
  opened_lt : ∀ o ∈ opened, o < a.length
  sorted : opened.Pairwise (· > ·)
  written : ∀ o ∈ opened.head?, top.reverse = scan (a.drop (o + 1)) ∨
    ∃ q ∈ done, o < q.opening ∧ q.closing < a.length

namespace Reached

variable {input a r top : Text} {opened : List Nat} {done : List Pair} {c : Char}

theorem start (input : Text) : Reached input [] input [] [] [] where
  text := rfl
  pairs := rfl
  seam := fun h => absurd h.1 (by simp)
  opened_lt := by simp
  sorted := List.Pairwise.nil
  written := by simp

theorem seam_drop (h : ¬ Straddles a r) (n : Nat) : ¬ Straddles (a.drop n) r := by
  rintro ⟨hl, hr⟩
  refine h ⟨?_, hr⟩
  rw [List.getLast?_drop] at hl
  split_ifs at hl
  exact hl

theorem extend {x : Text} (hx : x ≠ []) (h : Reached input a (x ++ r) opened done top)
    (hpairs : pairsFrom a.length opened false (x ++ r) = pairsFrom (a.length + x.length) opened false r)
    (hseam : ¬ Straddles x r) : Reached input (a ++ x) r opened done ((scan x).reverse ++ top) where
  text := by rw [List.append_assoc, h.text]
  pairs := by rw [List.length_append, ← hpairs, h.pairs]
  seam := fun ⟨hl, hr⟩ => hseam ⟨by rwa [List.getLast?_append_of_ne_nil _ hx] at hl, hr⟩
  opened_lt := fun o ho => by
    have := h.opened_lt o ho
    rw [List.length_append]
    omega
  sorted := h.sorted
  written := fun o ho => by
    have hlt := h.opened_lt o (List.mem_of_mem_head? ho)
    rcases h.written o ho with hw | ⟨q, hq, hoq, hqa⟩
    · left
      have hstraddle : ¬ Straddles (a.drop (o + 1)) x := by
        rintro ⟨hl, hr⟩
        refine seam_drop h.seam (o + 1) ⟨hl, ?_⟩
        rwa [List.head?_append_of_ne_nil _ hx]
      rw [List.reverse_append, List.reverse_reverse, hw, List.drop_append_of_le_length (by omega),
        scan_append hstraddle]
    · exact Or.inr ⟨q, hq, hoq, by rw [List.length_append]; omega⟩

theorem escape (h : Reached input a ('\\' :: c :: r) opened done top) (hc : c ∈ escapable) :
    Reached input (a ++ ['\\', c]) r opened done (hidden c :: top) := by
  have hx := extend (x := ['\\', c]) (by simp) h (pairsFrom_escape _ _ hc r)
    (fun hs => ne_backslash hc (by simpa using hs.1))
  rwa [scan_escape hc, scan] at hx

theorem char (h : Reached input a (c :: r) opened done top) (ho : c ≠ '{') (hc : c ≠ '}')
    (hs : ¬ Straddles [c] r) : Reached input (a ++ [c]) r opened done (c :: top) := by
  have hx := extend (x := [c]) (by simp) h (pairsFrom_char _ _ ho hc hs) hs
  rwa [scan_cons (by rintro ⟨-, d, hd, -⟩; simp at hd), scan] at hx

theorem opening (h : Reached input a ('{' :: r) opened done top) :
    Reached input (a ++ ['{']) r (a.length :: opened) done [] where
  text := by rw [List.append_assoc]; exact h.text
  pairs := by rw [List.length_append, ← h.pairs, pairsFrom_open]; rfl
  seam := fun hs => absurd hs.1 (by simp)
  opened_lt := fun o ho => by
    rw [List.length_append]
    rcases List.mem_cons.1 ho with rfl | ho
    · exact Nat.lt_succ_self _
    · exact Nat.lt_succ_of_lt (h.opened_lt o ho)
  sorted := List.pairwise_cons.2 ⟨h.opened_lt, h.sorted⟩
  written := fun o ho => by
    left
    rw [← Option.some.inj ho, List.drop_of_length_le (by simp)]
    rfl

theorem closing {o : Nat} (h : Reached input a ('}' :: r) (o :: opened) done top) (new : Text) :
    Reached input (a ++ ['}']) r opened (done ++ [⟨o, a.length⟩]) new where
  text := by rw [List.append_assoc]; exact h.text
  pairs := by rw [List.length_append, ← h.pairs, pairsFrom_close, List.append_assoc]; rfl
  seam := fun hs => absurd hs.1 (by simp)
  opened_lt := fun o' ho => by
    rw [List.length_append]
    exact Nat.lt_succ_of_lt (h.opened_lt o' (List.mem_cons_of_mem _ ho))
  sorted := (List.pairwise_cons.1 h.sorted).2
  written := fun o' ho => by
    right
    refine ⟨⟨o, a.length⟩, by simp, (List.pairwise_cons.1 h.sorted).1 o' (List.mem_of_mem_head? ho), ?_⟩
    rw [List.length_append]
    exact Nat.lt_succ_self _

end Reached

end Brackets

/-- The marker is closed by the closing brace at place `i` of the input: what follows
the marker is the rest of the input behind that brace, its escapes hidden. -/
def Visit.ClosedAt (v : Visit σ) (input : Text) (i : Nat) : Prop :=
  ∃ a b, input = a ++ '}' :: b ∧ a.length = i ∧ v.after = hide b

namespace StandIn

theorem length_scan_le_cons (c : Char) (r : Text) : (scan r).length ≤ (scan (c :: r)).length := by
  by_cases h : Straddles [c] r
  · obtain ⟨hc, d, hd, hmem⟩ := h
    obtain ⟨r', rfl⟩ : ∃ r', r = d :: r' := List.head?_eq_some_iff.1 hd
    rw [show c = '\\' by simpa using hc, scan_escape hmem,
      scan_cons fun hs => ne_backslash hmem (by simpa using hs.1)]
    exact le_rfl
  · rw [scan_cons h]
    exact Nat.le_succ _

theorem length_scan_le_append (a b : Text) : (scan b).length ≤ (scan (a ++ b)).length := by
  induction a with
  | nil => exact le_rfl
  | cons c a ih => exact ih.trans (length_scan_le_cons c (a ++ b))

theorem length_scan_lt {a b : Text} : (scan b).length < (scan (a ++ '}' :: b)).length := by
  have hclose : scan ('}' :: b) = '}' :: scan b := scan_cons fun hs => absurd hs.1 (by decide)
  have hle := length_scan_le_append a ('}' :: b)
  rw [hclose, List.length_cons] at hle
  exact hle

end StandIn

theorem Visit.closedAt_unique {v : Visit σ} {input : Text} {i j : Nat} (hi : v.ClosedAt input i)
    (hj : v.ClosedAt input j) : i = j := by
  have hlt {a b a' b' : Text} (h : a ++ '}' :: b = a' ++ '}' :: b') (hab : hide b = hide b') :
      ¬ a.length < a'.length := by
    intro hlen
    obtain ⟨m, rfl, hm⟩ : ∃ m, a' = a ++ m ∧ '}' :: b = m ++ '}' :: b' :=
      (List.append_eq_append_iff.1 h).resolve_right fun ⟨m, hm, _⟩ => by
        rw [hm, List.length_append] at hlen
        omega
    cases m with
    | nil => simp at hlen
    | cons c m =>
      have hb : b = m ++ '}' :: b' := (List.cons.inj hm).2
      have := length_scan_lt (a := m) (b := b')
      rw [← hb, ← hide_eq_scan, ← hide_eq_scan, hab] at this
      exact lt_irrefl _ this
  obtain ⟨a, b, hab, rfl, hv⟩ := hi
  obtain ⟨a', b', hab', rfl, hv'⟩ := hj
  have h := hab.symm.trans hab'
  have hhide := hv.symm.trans hv'
  exact le_antisymm (Nat.not_lt.1 (hlt h.symm hhide.symm)) (Nat.not_lt.1 (hlt h hhide))

namespace Expansion

open Brackets

/-- What a visit has in common with a pair of the input, whatever the methods answer. -/
structure Matches (input : Text) (v : Visit σ) (p : Pair) : Prop where
  closed : v.ClosedAt input p.closing
  written : p.Innermost input → v.contents = hide (p.between input)

theorem matches_next {input a r top : Text} {o : Nat} {opened : List Nat} {done : List Pair}
    (h : Reached input a ('}' :: r) (o :: opened) done top) (length : Nat) (st : σ) :
    Matches input ⟨top.reverse, scan r, length, st⟩ ⟨o, a.length⟩ where
  closed := ⟨a, r, h.text.symm, rfl, (hide_eq_scan r).symm⟩
  written := fun hinner => by
    have hbetween : Pair.between ⟨o, a.length⟩ input = a.drop (o + 1) := by
      unfold Pair.between
      rw [← h.text, List.take_left]
    rw [hbetween, hide_eq_scan]
    refine (h.written o rfl).resolve_right ?_
    rintro ⟨q, hq, hoq, hqa⟩
    exact hinner q (h.pairs ▸ List.mem_append_left _ hq) ⟨hoq, hqa⟩

theorem visits_match {reg : Registry (Action σ)} {input a r top : Text} {opened : List Nat} {done : List Pair}
    {below : List Text} {st : σ} (h : Reached input a r opened done top) (hlen : below.length = opened.length)
    (hend : (course reg top below (scan r) st).whole.ending.halt? = some .settled) :
    List.Forall₂ (Matches input) (course reg top below (scan r) st).whole.visits
      (pairsFrom a.length opened false r) := by
  induction r using scan_induction generalizing a opened done top below st with
  | nil =>
    rw [scan, course_nil, pairsFrom]
    exact List.Forall₂.nil
  | escape c r hc ih =>
    rw [scan_escape hc, course_char _ _ _ _ _ (hidden_ne hc).1 (hidden_ne hc).2] at hend ⊢
    rw [pairsFrom_escape _ _ hc]
    have := ih (h.escape hc) hlen hend
    rwa [List.length_append] at this
  | char c r hs ih =>
    rw [scan_cons hs] at hend ⊢
    by_cases ho : c = '{'
    · subst ho
      rw [course_open] at hend ⊢
      rw [pairsFrom_open]
      have := ih h.opening (by simp [hlen]) hend
      rwa [List.length_append] at this
    by_cases hc : c = '}'
    · subst hc
      cases below with
      | nil =>
        rw [List.eq_nil_of_length_eq_zero hlen.symm, course_unmatched, pairsFrom_unmatched]
        exact List.Forall₂.nil
      | cons outer below =>
        obtain ⟨o, os, rfl⟩ := List.exists_cons_of_length_eq_add_one hlen.symm
        rcases hd : substitute reg top.reverse st with ⟨stop | new, st'⟩
        · rw [course_stop _ _ _ hd] at hend
          cases stop <;> cases hend
        · rw [course_answer _ _ _ hd] at hend ⊢
          rw [pairsFrom_close]
          have := ih (h.closing _) (Nat.succ.inj hlen) hend
          rw [List.length_append] at this
          exact List.Forall₂.cons (matches_next h _ st) this
    · rw [course_char _ _ _ _ _ ho hc] at hend ⊢
      rw [pairsFrom_char _ _ ho hc hs]
      have := ih (h.char ho hc hs) hlen hend
      rwa [List.length_append] at this

theorem run_visits_match {reg : Registry (Action σ)} {limits : Limits} {input : Text} {st : σ}
    (h : (run reg limits input st).ending.halt? = some .settled) :
    List.Forall₂ (Matches input) (run reg limits input st).visits (pairs input) := by
  have hwhole : run reg limits input st = _ := run_of_unhalted (by simp [Run.Unhalted, h])
  rw [hide_eq_scan] at hwhole
  rw [hwhole] at h ⊢
  exact visits_match (Reached.start input) rfl h

theorem Matches.closedAt_iff {input : Text} {v : Visit σ} {p : Pair} (h : Matches input v p) (i : Nat) :
    v.ClosedAt input i ↔ i = p.closing :=
  ⟨fun hi => Visit.closedAt_unique hi h.closed, fun hi => hi ▸ h.closed⟩

theorem matches_of_getElem? {input : Text} {visits : List (Visit σ)} {ps : List Pair} {k : Nat} {v : Visit σ}
    {p : Pair} (h : List.Forall₂ (Matches input) visits ps) (hv : visits[k]? = some v)
    (hp : ps[k]? = some p) :
    Matches input v p := by
  obtain ⟨hk, rfl⟩ := List.getElem?_eq_some_iff.1 hv
  obtain ⟨hk', rfl⟩ := List.getElem?_eq_some_iff.1 hp
  exact h.get hk hk'

/-- Two expansions of an input that run to their end, with any methods on any states:
both evaluate a marker for each pair of braces, in the order of the pairs. The
markers of a pair are closed by the same brace of the input, and if no other pair
lies inside of it, they make the same call. -/
theorem markers_determined {reg : Registry (Action σ)} {reg' : Registry (Action τ)} {limits limits' : Limits}
    {input : Text} {st : σ} {st' : τ} (h : (run reg limits input st).ending.halt? = some .settled)
    (h' : (run reg' limits' input st').ending.halt? = some .settled) :
    let visits := (expand reg limits input st).visits
    let visits' := (expand reg' limits' input st').visits
    visits.length = (pairs input).length ∧ visits'.length = (pairs input).length ∧
      ∀ (k : Nat) (p : Pair) (v : Visit σ) (v' : Visit τ),
        (pairs input)[k]? = some p → visits[k]? = some v → visits'[k]? = some v' →
          (∀ i, v.ClosedAt input i ↔ i = p.closing) ∧ (∀ i, v'.ClosedAt input i ↔ i = p.closing) ∧
            (p.Innermost input →
              Call.ofContents v.contents = Call.ofContents v'.contents ∧
              Call.ofContents v.contents = Call.ofContents (hide (p.between input))) := by
  intro visits visits'
  have hmatch : List.Forall₂ (Matches input) visits (pairs input) := run_visits_match h
  have hmatch' : List.Forall₂ (Matches input) visits' (pairs input) := run_visits_match h'
  refine ⟨hmatch.length_eq, hmatch'.length_eq, fun k p v v' hp hv hv' => ?_⟩
  have hm := matches_of_getElem? hmatch hv hp
  have hm' := matches_of_getElem? hmatch' hv' hp
  refine ⟨hm.closedAt_iff, hm'.closedAt_iff, fun hinner => ?_⟩
  rw [hm.written hinner, hm'.written hinner]
  exact ⟨rfl, rfl⟩

/-- The inner marker of a nested one is read alike with a method that answers braces
and without any method. -/
theorem markers_determined_sample :
    let limits : Limits := ⟨Limit.count 9, Limit.count 99, Limit.count 99⟩
    let input := "\x7bu:\\\x7b\x7bn\x7d\x7d\x7d\x7bn\x7d".toList
    let visits := (expand sample limits input 0).visits
    let visits' := (expand (Table.empty : Registry (Action Unit)) limits input ()).visits
    visits.length = 2 ∧ visits'.length = 2 ∧
      ∀ v v', visits[0]? = some v → visits'[0]? = some v' →
        v.ClosedAt input 7 ∧ v'.ClosedAt input 7 ∧
          Call.ofContents v.contents = Call.ofContents v'.contents := by
  intro limits input visits visits'
  have h : (run sample limits input 0).ending.halt? = some .settled := by decide
  have h' : (run (Table.empty : Registry (Action Unit)) limits input ()).ending.halt? = some .settled := by
    decide
  obtain ⟨hlength, hlength', hmarkers⟩ := markers_determined h h'
  refine ⟨hlength, hlength', fun v v' hv hv' => ?_⟩
  obtain ⟨hclosed, hclosed', hcalls⟩ := hmarkers 0 ⟨5, 7⟩ v v' (by decide) hv hv'
  exact ⟨(hclosed 7).2 rfl, (hclosed' 7).2 rfl, (hcalls (by unfold Pair.Innermost; decide)).1⟩

end Expansion

end TagExpander
