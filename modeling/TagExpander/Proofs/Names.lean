import TagExpander.Proofs.Restoring

/-! Names under restoring. Restoring adds and takes no white space at the ends of a
text and no colon, so it goes through the reading of a marker. A registry finds a
name restored if and only if it finds it as it is, provided that no registered name
could stand for another text. -/

namespace TagExpander

namespace Text

theorem trim_append {l t r : Text} (hl : ∀ c ∈ l, isBlank c = true) (hr : ∀ c ∈ r, isBlank c = true)
    (hhead : ∀ c ∈ t.head?, isBlank c = false) (hlast : ∀ c ∈ t.getLast?, isBlank c = false) :
    trim (l ++ t ++ r) = t := by
  have hleft : (l ++ t ++ r).dropWhile isBlank = (t ++ r).dropWhile isBlank := by
    rw [List.append_assoc, List.dropWhile_append_of_pos hl]
  cases t with
  | nil =>
    have hrest : r.dropWhile isBlank = [] := List.dropWhile_eq_nil_iff.2 hr
    rw [trim, stripBy, hleft, List.nil_append, hrest]
    rfl
  | cons c t =>
    have hc : isBlank c = false := hhead c rfl
    have hright : ∀ x ∈ r.reverse, isBlank x = true := fun x hx => hr x (List.mem_reverse.1 hx)
    have hkeep : (c :: t).reverse.dropWhile isBlank = (c :: t).reverse :=
      (dropWhile_eq_self_iff _ _).2 (by simpa only [List.head?_reverse] using hlast)
    rw [trim, stripBy, hleft, List.cons_append, List.dropWhile_cons_of_neg (by simp [hc]), ← List.cons_append,
      List.reverse_append, List.dropWhile_append_of_pos hright, hkeep, List.reverse_reverse]

theorem exists_trim (s : Text) : ∃ l r : Text, s = l ++ trim s ++ r ∧ (∀ c ∈ l, isBlank c = true) ∧
    (∀ c ∈ r, isBlank c = true) ∧ (∀ c ∈ (trim s).head?, isBlank c = false) ∧
    ∀ c ∈ (trim s).getLast?, isBlank c = false := by
  set d := s.dropWhile isBlank with hd
  have ht : trim s = (d.reverse.dropWhile isBlank).reverse := rfl
  have hsplit : d = trim s ++ (d.reverse.takeWhile isBlank).reverse := by
    rw [ht, ← List.reverse_append, List.takeWhile_append_dropWhile, List.reverse_reverse]
  refine ⟨s.takeWhile isBlank, (d.reverse.takeWhile isBlank).reverse, ?_, ?_, ?_, ?_, ?_⟩
  · rw [List.append_assoc, ← hsplit, hd, List.takeWhile_append_dropWhile]
  · exact fun c hc => List.mem_takeWhile_imp hc
  · exact fun c hc => List.mem_takeWhile_imp (List.mem_reverse.1 hc)
  · intro c hc
    have hcd : c ∈ d.head? := by
      rw [hsplit]
      cases htrim : trim s with
      | nil => simp [htrim] at hc
      | cons x t => simpa [htrim] using hc
    have := List.head?_dropWhile_not isBlank s
    rw [← hd, Option.mem_def.1 hcd] at this
    simpa using this
  · intro c hc
    rw [ht, List.getLast?_reverse] at hc
    have := List.head?_dropWhile_not isBlank d.reverse
    rw [Option.mem_def.1 hc] at this
    simpa using this

end Text

namespace StandIn

theorem notMem_all_of_isBlank {c : Char} (h : Text.isBlank c = true) : c ∉ all := by
  intro hc
  rcases mem_all.1 hc with rfl | rfl | rfl | rfl | rfl <;> exact absurd h (by decide)

theorem restore_of_isBlank {s : Text} (h : ∀ c ∈ s, Text.isBlank c = true) : restore s = s :=
  restore_of_isPlain fun c hc => notMem_all_of_isBlank (h c hc)

theorem isBlank_of_mem_meaning {c d : Char} (h : Text.isBlank c = false) (hd : d ∈ meaning c) :
    Text.isBlank d = false := by
  by_cases hc : c ∈ all
  · have hmem := mem_escapable_of_mem_meaning hc hd
    rw [List.mem_cons, mem_escapable] at hmem
    rcases hmem with rfl | rfl | rfl | rfl <;> decide
  · rw [meaning_of_notMem hc, List.mem_singleton] at hd
    exact hd ▸ h

theorem meaning_ne_nil (c : Char) : meaning c ≠ [] := by
  unfold meaning
  cases escape? c <;> simp

theorem trim_restore (s : Text) : Text.trim (restore s) = restore (Text.trim s) := by
  obtain ⟨l, r, hs, hl, hr, hhead, hlast⟩ := Text.exists_trim s
  generalize Text.trim s = t at hs hhead hlast ⊢
  rw [hs, restore_append, restore_append, restore_of_isBlank hl, restore_of_isBlank hr]
  refine Text.trim_append hl hr ?_ ?_
  · cases t with
    | nil => simp
    | cons c t =>
      rw [restore_cons, List.head?_append_of_ne_nil _ (meaning_ne_nil c)]
      exact fun d hd => isBlank_of_mem_meaning (hhead c rfl) (List.mem_of_mem_head? hd)
  · rcases List.eq_nil_or_concat t with ht | ⟨t', c, ht⟩
    · simp [ht]
    · rw [ht, List.concat_eq_append] at hlast ⊢
      rw [restore_append, restore_cons, restore_nil, List.append_nil,
        List.getLast?_append_of_ne_nil _ (meaning_ne_nil c)]
      exact fun d hd => isBlank_of_mem_meaning (hlast c (by simp)) (List.mem_of_getLast? hd)

/-- What is no part of an escape and no brace is in a restored text as it was before. -/
theorem mem_restore_iff {x : Char} (hx : x ∉ all) (hm : x ∉ '\\' :: escapable) (s : Text) :
    x ∈ restore s ↔ x ∈ s := by
  rw [restore_eq_flatMap, List.mem_flatMap]
  constructor
  · rintro ⟨c, hc, hxc⟩
    by_cases hca : c ∈ all
    · exact absurd (mem_escapable_of_mem_meaning hca hxc) hm
    · rw [meaning_of_notMem hca, List.mem_singleton] at hxc
      exact hxc ▸ hc
  · intro h
    exact ⟨x, h, by simp [meaning_of_notMem hx]⟩

/-- The text stands for itself only: it holds no stand-in, and no stand-in stands for
a part of it. -/
structure IsBare (s : Text) : Prop where
  plain : IsPlain s
  noOpen : '{' ∉ s
  noClose : '}' ∉ s
  noPipe : ¬ ['\\', '|'] <:+: s

instance (s : Text) : Decidable (IsBare s) :=
  decidable_of_iff (IsPlain s ∧ '{' ∉ s ∧ '}' ∉ s ∧ ¬ ['\\', '|'] <:+: s)
    ⟨fun ⟨h₁, h₂, h₃, h₄⟩ => ⟨h₁, h₂, h₃, h₄⟩, fun ⟨h₁, h₂, h₃, h₄⟩ => ⟨h₁, h₂, h₃, h₄⟩⟩

theorem isPlain_of_isBare_restore {s : Text} (h : IsBare (restore s)) : IsPlain s := by
  intro c hc hall
  obtain ⟨a, b, rfl⟩ := List.append_of_mem hc
  have hin : meaning c <:+: restore (a ++ c :: b) := ⟨restore a, restore b, by
    rw [restore_append, restore_cons, List.append_assoc]⟩
  rcases meaning_of_mem hall with ⟨d, hd, he⟩ | he | he <;> rw [he] at hin
  · rcases mem_escapable.1 hd with rfl | rfl | rfl
    · exact h.noOpen (hin.subset (by simp))
    · exact h.noPipe hin
    · exact h.noClose (hin.subset (by simp))
  · exact h.noOpen (hin.subset (by simp))
  · exact h.noClose (hin.subset (by simp))

end StandIn

theorem Call.ofText_restore (s : Text) :
    Call.ofText (StandIn.restore s) =
      ⟨StandIn.restore (Call.ofText s).name, (Call.ofText s).params.map StandIn.restore⟩ := by
  have hmem (t : Text) : ':' ∈ StandIn.restore t ↔ ':' ∈ t :=
    StandIn.mem_restore_iff (by decide) (by decide) t
  unfold Call.ofText
  cases h : Text.cut? s ':' with
  | none =>
    rw [Text.cut?_of_notMem fun hr => Text.cut?_eq_none_iff.1 h ((hmem s).1 hr)]
    exact congrArg (Call.mk · none) (StandIn.trim_restore s)
  | some ab =>
    obtain ⟨rfl, ha⟩ := Text.cut?_eq_some_iff.1 h
    rw [StandIn.restore_append, StandIn.restore_cons_of_notMem (by decide),
      Text.cut?_append fun hr => ha ((hmem ab.1).1 hr)]
    exact congrArg (Call.mk · _) (StandIn.trim_restore ab.1)

theorem Table.get?_of_notMem {α : Type} {t : Table α} {k : Text} (h : k ∉ t.keys) : t.get? k = none := by
  unfold Table.get?
  unfold Table.keys at h
  generalize t.entries = es at h ⊢
  induction es with
  | nil => rfl
  | cons e r ih =>
    simp only [List.map_cons, List.mem_cons, not_or] at h
    rw [Table.seek, if_neg (Ne.symm h.1), ih h.2]

namespace Registry

variable {α : Type}

def NamesBare (reg : Registry α) : Prop := ∀ n ∈ reg.keys, StandIn.IsBare n

instance (reg : Registry α) : Decidable reg.NamesBare :=
  inferInstanceAs (Decidable (∀ n ∈ reg.keys, StandIn.IsBare n))

theorem get?_restore {reg : Registry α} (h : reg.NamesBare) (n : Text) :
    reg.get? (StandIn.restore n) = reg.get? n := by
  by_cases hn : StandIn.IsPlain n
  · rw [StandIn.restore_of_isPlain hn]
  · rw [Table.get?_of_notMem fun hk => hn (StandIn.isPlain_of_isBare_restore (h _ hk)),
      Table.get?_of_notMem fun hk => hn (h _ hk).plain]

theorem action?_ofText_restore {reg : Registry α} (h : reg.NamesBare) (s : Text) :
    reg.action? (Call.ofText (StandIn.restore s)) = reg.action? (Call.ofContents s) := by
  rw [Call.ofText_restore]
  unfold Registry.action? Call.ofContents
  rw [get?_restore h]

/-- If a method answers a marker, the marker and its restored text are the same call. -/
theorem ofText_restore_of_answered {reg : Registry α} (h : reg.NamesBare) {s : Text}
    (hs : (reg.action? (Call.ofContents s)).isSome) :
    Call.ofText (StandIn.restore s) = Call.ofContents s := by
  have hname : (Call.ofText s).name ∈ reg.keys := by
    by_contra hk
    have hnone : reg.get? (Call.ofContents s).name = none := Table.get?_of_notMem hk
    simp [Registry.action?, hnone] at hs
  rw [Call.ofText_restore, StandIn.restore_of_isPlain (h _ hname).plain]
  rfl

end Registry

end TagExpander
