import TagExpander.Proofs.Restoring

/-! Shielding and restoring are rows of replacements, and restoring makes those of
shielding the other way round. Restoring undoes shielding on every text, typed stand-ins
apart, which it reads in any case. Shielding undoes restoring on the texts that it gives
itself, and these are told by what stands next to what. -/

namespace TagExpander

def Text.replaceEach (s : Text) (steps : List (Text × Text)) : Text :=
  steps.foldl (fun s step => s.replaceAll step.1 step.2) s

theorem Text.replaceAll_singleton (a : Char) (new s : Text) :
    s.replaceAll [a] new = s.flatMap fun c => if c = a then new else [c] := by
  unfold replaceAll
  rw [if_neg (by simp)]
  induction s with
  | nil => rfl
  | cons c r ih =>
    by_cases h : c = a
    · simp [replaceFrom, h, ih]
    · have hp : [a].isPrefixOf (c :: r) = false := by simp [List.isPrefixOf, Ne.symm h]
      simp [replaceFrom, h, hp, ih]

namespace StandIn

/-- What is hidden or shielded, and what stands in for it. The braces come after the
escapes that hold them. -/
def steps : List (Text × Text) :=
  [(['\\', '{'], [escapedOpen]), (['\\', '|'], [escapedPipe]), (['\\', '}'], [escapedClose]),
   (['{'], [shieldedOpen]), (['}'], [shieldedClose])]

theorem shield_eq_replaceEach (s : Text) : shield s = s.replaceEach steps := by
  have hsplit : s.replaceEach steps =
      ((hide s).replaceAll ['{'] [shieldedOpen]).replaceAll ['}'] [shieldedClose] := rfl
  rw [hsplit, hide_eq_scan, Text.replaceAll_singleton, Text.replaceAll_singleton, List.flatMap_assoc,
    shield, List.map_eq_flatMap]
  congr 1
  funext c
  unfold shieldChar
  split_ifs with h₁ h₂ <;> simp_all [shieldedOpen]

theorem restore_eq_replaceEach (s : Text) :
    restore s = s.replaceEach (steps.map Prod.swap) := by
  simp only [Text.replaceEach, steps, List.map_cons, List.map_nil, Prod.swap_prod_mk, List.foldl_cons,
    List.foldl_nil, Text.replaceAll_singleton, List.flatMap_assoc, restore_eq_flatMap]
  congr 1
  funext c
  by_cases h : c ∈ all
  · rcases mem_all.1 h with rfl | rfl | rfl | rfl | rfl <;> decide
  · rw [meaning_of_notMem h]
    simp only [all, List.mem_cons, List.not_mem_nil, or_false, not_or] at h
    simp [h]

theorem shield_escape {c : Char} (h : c ∈ escapable) (r : Text) :
    shield ('\\' :: c :: r) = hidden c :: shield r := by
  have hne := hidden_ne h
  simp [shield, scan_escape h, shieldChar, hne.1, hne.2]

theorem shield_cons {c : Char} {r : Text} (h : ¬ Straddles [c] r) :
    shield (c :: r) = shieldChar c :: shield r := by
  simp [shield, scan_cons h]

theorem shieldChar_of_notMem {c : Char} (h : c ∉ escapable) : shieldChar c = c := by
  have hne := ne_of_notMem_escapable h
  simp [shieldChar, hne.1, hne.2]

theorem shieldChar_eq_backslash {c : Char} (h : shieldChar c = '\\') : c = '\\' := by
  unfold shieldChar at h
  split_ifs at h
  · exact absurd h (by decide)
  · exact absurd h (by decide)
  · exact h

/-- A shielded text begins with a hidden escape, or as the text itself does. -/
theorem head?_shield {x : Char} {s : Text} (h : x ∈ (shield s).head?) :
    (∃ c ∈ escapable, x = hidden c) ∨ ∃ c ∈ s.head?, x = shieldChar c := by
  induction s using scan_induction with
  | nil => cases h
  | escape c r hc _ =>
    rw [shield_escape hc] at h
    exact Or.inl ⟨c, hc, (Option.some.inj h).symm⟩
  | char c r hc _ =>
    rw [shield_cons hc] at h
    exact Or.inr ⟨c, rfl, (Option.some.inj h).symm⟩

/-- What comes after a backslash in a shielded text: a hidden escape, or a character of
the text that a backslash does not make an escape. -/
theorem after_backslash_shield {x : Char} {s : Text} (h : ['\\', x] <:+: shield s) :
    (∃ c ∈ escapable, x = hidden c) ∨ x ∈ s ∧ x ∉ escapable := by
  induction s using scan_induction with
  | nil => simp [shield, scan] at h
  | escape c r hc ih =>
    rw [shield_escape hc, List.infix_cons_iff] at h
    rcases h with h | h
    · have hbackslash : '\\' = hidden c := (List.cons_prefix_cons.1 h).1
      rcases mem_escapable.1 hc with rfl | rfl | rfl <;> exact absurd hbackslash (by decide)
    · exact (ih h).imp_right fun h => ⟨List.mem_cons_of_mem _ (List.mem_cons_of_mem _ h.1), h.2⟩
  | char c r hc ih =>
    rw [shield_cons hc, List.infix_cons_iff] at h
    rcases h with h | h
    · obtain ⟨hbackslash, hr⟩ := List.cons_prefix_cons.1 h
      have hhead : x ∈ (shield r).head? := by
        obtain ⟨t, ht⟩ := hr
        rw [← ht]
        rfl
      rcases head?_shield hhead with hhidden | ⟨d, hd, hx⟩
      · exact Or.inl hhidden
      · have hnot : d ∉ escapable := fun hmem =>
          hc ⟨by rw [shieldChar_eq_backslash hbackslash.symm]; rfl, d, hd, hmem⟩
        rw [shieldChar_of_notMem hnot] at hx
        exact Or.inr (hx ▸ ⟨List.mem_cons_of_mem _ (List.mem_of_mem_head? hd), hnot⟩)
    · exact (ih h).imp_right fun h => ⟨List.mem_cons_of_mem _ h.1, h.2⟩

theorem ne_hidden {c x : Char} (h : c ∈ escapable) (hx : (meaning x).length = 1) : x ≠ hidden c := by
  rintro rfl
  rw [meaning_hidden h] at hx
  cases hx

theorem pipe_notInfix_shield (s : Text) : ¬ ['\\', '|'] <:+: shield s := by
  intro h
  rcases after_backslash_shield h with ⟨c, hc, he⟩ | ⟨-, hnot⟩
  · exact ne_hidden hc rfl he
  · exact hnot (by decide)

theorem injOn_shield : Set.InjOn shield {s | IsPlain s} := by
  intro s hs t ht h
  calc s = restore (shield s) := by rw [restore_shield, restore_of_isPlain hs]
    _ = restore (shield t) := by rw [h]
    _ = t := by rw [restore_shield, restore_of_isPlain ht]

/-- Shielding and hiding do not change what a text is restored to, whatever stand-ins it
holds. A text without stand-ins is restored to itself, so no two of them are shielded
alike. A shielded text has neither braces nor escapes, and a restored one no stand-ins. -/
theorem restore_undoes_shield (s : Text) :
    (shield s = s.replaceEach steps ∧ restore s = s.replaceEach (steps.map Prod.swap)) ∧
    (restore (shield s) = restore s ∧ restore (hide s) = restore s) ∧
    (IsPlain s → restore s = s ∧ ∀ t, IsPlain t → shield s = shield t → s = t) ∧
    ('{' ∉ shield s ∧ '}' ∉ shield s ∧ ¬ ['\\', '|'] <:+: shield s) ∧
    IsPlain (restore s) := by
  have hhide : restore (hide s) = restore s := by rw [hide_eq_scan, restore_scan]
  exact ⟨⟨shield_eq_replaceEach s, restore_eq_replaceEach s⟩, ⟨restore_shield s, hhide⟩,
    fun hs => ⟨restore_of_isPlain hs, fun t ht h => injOn_shield hs ht h⟩,
    ⟨open_notMem_shield s, close_notMem_shield s, pipe_notInfix_shield s⟩, isPlain_restore s⟩

/-- An escaped brace and a bare one after a backslash: they are shielded differently. -/
theorem restore_undoes_shield_sample :
    let s : Text := ['\\', '\\', '{', '|', '}']
    let t : Text := ['\\', '{', '\\', '|', '}']
    IsPlain s ∧ IsPlain t ∧ restore s = s ∧ shield s ≠ shield t := by
  intro s t
  have hs : IsPlain s := by decide
  have ht : IsPlain t := by decide
  obtain ⟨-, -, h, -⟩ := restore_undoes_shield s
  exact ⟨hs, ht, (h hs).1, fun he => absurd ((h hs).2 t ht he) (by decide)⟩

/-- The texts that shielding gives: no brace, and no escape, be it written out or made of
a backslash and a shielded brace. -/
structure IsCanonical (t : Text) : Prop where
  noOpen : '{' ∉ t
  noClose : '}' ∉ t
  noPipe : ¬ ['\\', '|'] <:+: t
  noShieldedOpen : ¬ ['\\', shieldedOpen] <:+: t
  noShieldedClose : ¬ ['\\', shieldedClose] <:+: t

theorem isCanonical_shield {s : Text} (h : IsPlain s) : IsCanonical (shield s) := by
  have hshielded (x : Char) (hall : x ∈ all) (hx : (meaning x).length = 1) : ¬ ['\\', x] <:+: shield s := by
    intro hin
    rcases after_backslash_shield hin with ⟨c, hc, he⟩ | ⟨hmem, -⟩
    · exact ne_hidden hc hx he
    · exact h x hmem hall
  exact ⟨open_notMem_shield s, close_notMem_shield s, pipe_notInfix_shield s,
    hshielded shieldedOpen (by decide) rfl, hshielded shieldedClose (by decide) rfl⟩

theorem IsCanonical.tail {c : Char} {r : Text} (h : IsCanonical (c :: r)) : IsCanonical r :=
  ⟨fun hr => h.noOpen (List.mem_cons_of_mem _ hr), fun hr => h.noClose (List.mem_cons_of_mem _ hr),
    fun hr => h.noPipe (List.infix_cons hr), fun hr => h.noShieldedOpen (List.infix_cons hr),
    fun hr => h.noShieldedClose (List.infix_cons hr)⟩

theorem IsCanonical.not_straddles {c : Char} {r : Text} (h : IsCanonical (c :: r)) :
    ¬ Straddles [c] (restore r) := by
  rintro ⟨hc, d, hd, hesc⟩
  obtain rfl : c = '\\' := by simpa using hc
  cases r with
  | nil => cases hd
  | cons x r =>
    have hpair (y : Char) (hy : x = y) : ['\\', y] <:+: '\\' :: x :: r := by
      rw [hy]
      exact List.IsPrefix.isInfix ⟨r, rfl⟩
    rw [restore_cons] at hd
    by_cases hx : x ∈ all
    · rcases mem_all.1 hx with rfl | rfl | rfl | rfl | rfl
      · cases hd; exact absurd hesc (by decide)
      · cases hd; exact absurd hesc (by decide)
      · cases hd; exact absurd hesc (by decide)
      · exact h.noShieldedOpen (hpair _ rfl)
      · exact h.noShieldedClose (hpair _ rfl)
    · rw [meaning_of_notMem hx] at hd
      obtain rfl : x = d := by simpa using hd
      rcases mem_escapable.1 hesc with hx | hx | hx
      · exact h.noOpen (by simp [hx])
      · exact h.noPipe (hpair _ hx)
      · exact h.noClose (by simp [hx])

/-- A stand-in, restored and shielded again in front of a text that it makes no escape with. -/
theorem shield_meaning_append {c : Char} {s : Text} (ho : c ≠ '{') (hc : c ≠ '}') (h : ¬ Straddles [c] s) :
    shield (meaning c ++ s) = c :: shield s := by
  by_cases hall : c ∈ all
  · simp only [all, List.mem_cons, List.not_mem_nil, or_false] at hall
    have hbrace (d : Char) (hd : d ≠ '\\') : ¬ Straddles [d] s := fun hs => hd (by simpa using hs.1)
    rcases hall with rfl | rfl | rfl | rfl | rfl
    · exact shield_escape (by decide) s
    · exact shield_escape (by decide) s
    · exact shield_escape (by decide) s
    · exact shield_cons (hbrace '{' (by decide))
    · exact shield_cons (hbrace '}' (by decide))
  · rw [meaning_of_notMem hall, List.singleton_append, shield_cons h]
    simp [shieldChar, ho, hc]

theorem shield_restore {t : Text} (h : IsCanonical t) : shield (restore t) = t := by
  induction t with
  | nil => rfl
  | cons c r ih =>
    have ho : c ≠ '{' := fun e => h.noOpen (by simp [e])
    have hc : c ≠ '}' := fun e => h.noClose (by simp [e])
    rw [restore_cons, shield_meaning_append ho hc h.not_straddles, ih h.tail]

/-- Shielding undoes restoring on the canonical texts only, and they are what shielding
makes of the texts without stand-ins. -/
theorem shield_undoes_restore :
    (∀ t, shield (restore t) = t ↔ IsCanonical t) ∧ {t | IsCanonical t} = shield '' {s | IsPlain s} := by
  refine ⟨fun t => ⟨fun h => h ▸ isCanonical_shield (isPlain_restore t), shield_restore⟩, ?_⟩
  ext t
  constructor
  · exact fun h => ⟨restore t, isPlain_restore t, shield_restore h⟩
  · rintro ⟨s, hs, rfl⟩
    exact isCanonical_shield hs

end StandIn

end TagExpander
