import TagExpander.Proofs.RoundTrip

/-! Hiding escapes. A replacement of one kind of escape neither makes nor breaks an escape of
another kind. So the replacements may be made in any order, and come to one scan. Two texts
can be hidden apart from each other, unless an escape lies across their seam. -/

namespace TagExpander.StandIn

def hideStep (c : Char) : Text × Text :=
  (['\\', c], [hidden c])

def hideOne (c : Char) (s : Text) : Text :=
  s.replaceAll (hideStep c).1 (hideStep c).2

theorem hide_eq_replaceEach (s : Text) : hide s = s.replaceEach (escapable.map hideStep) := rfl

theorem hideOne_self (c : Char) (r : Text) : hideOne c ('\\' :: c :: r) = hidden c :: hideOne c r :=
  Text.replaceAll_pair_match '\\' c [hidden c] r

theorem hideOne_cons {c d : Char} {r : Text} (hd : d ∈ escapable) (h : ¬ Straddles [c] r) :
    hideOne d (c :: r) = c :: hideOne d r :=
  Text.replaceAll_pair_cons (fun hc hr => h ⟨congrArg some hc, d, hr, hd⟩) [hidden d]

theorem hideOne_ne {c d : Char} (hc : c ∈ escapable) (hne : c ≠ d) (r : Text) :
    hideOne d ('\\' :: c :: r) = '\\' :: c :: hideOne d r := by
  have hhead : (c :: r).head? ≠ some d := fun h => hne (Option.some.inj h)
  have hfirst : hideOne d ('\\' :: c :: r) = '\\' :: hideOne d (c :: r) :=
    Text.replaceAll_pair_cons (fun _ => hhead) [hidden d]
  have hsecond : hideOne d (c :: r) = c :: hideOne d r :=
    Text.replaceAll_pair_cons (fun h => absurd h (ne_backslash hc)) [hidden d]
  rw [hfirst, hsecond]

theorem hidden_notMem_escapable {c : Char} (h : c ∈ escapable) : hidden c ∉ escapable := by
  rcases mem_escapable.1 h with rfl | rfl | rfl <;> decide

theorem hidden_ne_backslash {c : Char} (h : c ∈ escapable) : hidden c ≠ '\\' := by
  rcases mem_escapable.1 h with rfl | rfl | rfl <;> decide

/-- A backslash that makes no escape makes none with what a replacement leaves behind it. -/
theorem not_straddles_hideOne {c d : Char} {r : Text} (hd : d ∈ escapable) (h : ¬ Straddles [c] r) :
    ¬ Straddles [c] (hideOne d r) := by
  rintro ⟨hc, e, he, hesc⟩
  rcases Text.head?_replaceAll_pair he with rfl | hr
  · exact hidden_notMem_escapable hd hesc
  · exact h ⟨hc, e, hr, hesc⟩

theorem not_straddles_hidden {c : Char} (hc : c ∈ escapable) (r : Text) : ¬ Straddles [hidden c] r :=
  fun h => hidden_ne_backslash hc (by simpa using h.1)

theorem hideOne_comm {d e : Char} (hd : d ∈ escapable) (he : e ∈ escapable) (s : Text) :
    hideOne d (hideOne e s) = hideOne e (hideOne d s) := by
  obtain rfl | hne := eq_or_ne d e
  · rfl
  induction s using scan_induction with
  | nil => rfl
  | escape c r hc ih =>
    -- at most one of the two hides this escape, and what it puts there begins no other one
    by_cases hcd : c = d
    · subst hcd
      rw [hideOne_ne hc hne, hideOne_self, hideOne_self, hideOne_cons he (not_straddles_hidden hc _), ih]
    by_cases hce : c = e
    · subst hce
      rw [hideOne_ne hc hne.symm, hideOne_self, hideOne_self, hideOne_cons hd (not_straddles_hidden hc _), ih]
    · rw [hideOne_ne hc hcd, hideOne_ne hc hce, hideOne_ne hc hcd, hideOne_ne hc hce, ih]
  | char c r h ih =>
    rw [hideOne_cons he h, hideOne_cons hd h, hideOne_cons hd (not_straddles_hideOne he h),
      hideOne_cons he (not_straddles_hideOne hd h), ih]

theorem replaceEach_perm {cs : List Char} (h : cs.Perm escapable) (s : Text) :
    s.replaceEach (cs.map hideStep) = hide s := by
  rw [hide_eq_replaceEach, Text.replaceEach, Text.replaceEach, List.foldl_map, List.foldl_map]
  exact h.foldl_eq' (fun d hd e he s => hideOne_comm (h.subset he) (h.subset hd) s) s

theorem scan_append_of_straddles {a b : Text} (h : Straddles a b) :
    ∃ c left right, c ∈ escapable ∧ scan (a ++ b) = left ++ hidden c :: right ∧
      scan a ++ scan b = left ++ '\\' :: c :: right := by
  obtain ⟨ha, c, hb, hc⟩ := h
  obtain ⟨a, rfl⟩ := List.getLast?_eq_some_iff.1 ha
  obtain ⟨b, rfl⟩ := List.head?_eq_some_iff.1 hb
  have hbackslash (r : Text) : ¬ Straddles a ('\\' :: r) := by
    rintro ⟨-, d, hd, hesc⟩
    exact ne_backslash hesc (Option.some.inj hd).symm
  have hleft : scan (a ++ ['\\']) = scan a ++ ['\\'] := scan_append (hbackslash [])
  have hright : scan (c :: b) = c :: scan b := scan_cons fun hs => ne_backslash hc (by simpa using hs.1)
  refine ⟨c, scan a, scan b, hc, ?_, ?_⟩
  · rw [List.append_assoc, List.singleton_append, scan_append (hbackslash _), scan_escape hc]
  · rw [hleft, hright, List.append_assoc, List.singleton_append]

theorem scan_append_iff {a b : Text} : scan (a ++ b) = scan a ++ scan b ↔ ¬ Straddles a b := by
  refine ⟨fun h hs => ?_, scan_append⟩
  obtain ⟨c, left, right, -, hwhole, hparts⟩ := scan_append_of_straddles hs
  have hlength := congrArg List.length (hwhole.symm.trans (h.trans hparts))
  simp at hlength

/-- Hiding is one scan, in whatever order the escapes are replaced. It goes through appended
texts if and only if no escape lies across the seam. -/
theorem hide_scans_unless_straddled :
    (∀ s, hide s = scan s) ∧
    (∀ cs : List Char, cs.Perm escapable → ∀ s : Text, s.replaceEach (cs.map hideStep) = scan s) ∧
    ∀ a b, hide (a ++ b) = hide a ++ hide b ↔ ¬ Straddles a b := by
  refine ⟨hide_eq_scan, fun cs hcs s => by rw [replaceEach_perm hcs, hide_eq_scan], fun a b => ?_⟩
  rw [hide_eq_scan, hide_eq_scan, hide_eq_scan]
  exact scan_append_iff

/-- Escaped closing braces come first here, in a text with two backslashes in a row and a typed
stand-in. -/
theorem hide_scans_unless_straddled_sample :
    let cs : List Char := ['}', '|', '{']
    let s : Text := ['\\', '\\', '{', escapedPipe, '|', '\\', '}']
    cs.Perm escapable ∧ s.replaceEach (cs.map hideStep) = ['\\', escapedOpen, escapedPipe, '|', escapedClose] := by
  intro cs s
  have hcs : cs.Perm escapable := by decide
  obtain ⟨-, horder, -⟩ := hide_scans_unless_straddled
  exact ⟨hcs, (horder cs hcs s).trans rfl⟩

end TagExpander.StandIn
