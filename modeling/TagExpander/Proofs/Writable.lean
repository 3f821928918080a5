import TagExpander.Procedure
import Mathlib

/-! Which values have a text. A value is written where none of its integers has too many
digits and nothing in it is nested deeper than the room; a text is shown as it is. -/

namespace TagExpander

namespace Text.Decimal

/-- The numeral of an integer has not too many digits. -/
def Writable (n : Int) : Prop := n.natAbs < 10 ^ maxDigits

theorem ofInt?_of_writable {n : Int} (h : Writable n) : ofInt? n = some (ofInt n) := by
  unfold Writable at h
  rw [ofInt?, Nat.pow_eq, if_pos h]

theorem ofInt?_of_not_writable {n : Int} (h : ¬ Writable n) : ofInt? n = none := by
  unfold Writable at h
  rw [ofInt?, Nat.pow_eq, if_neg h]

end Text.Decimal

namespace Value

mutual

/-- There is room for the value and for all that is nested in it, and its integers have
numerals. -/
def FitsIn (room : Nat) : Value → Prop
  | int n => 0 < room ∧ Text.Decimal.Writable n
  | list items => 0 < room ∧ ItemsFitIn (room - 1) items
  | dict entries => 0 < room ∧ EntriesFitIn (room - 1) entries
  | _ => 0 < room

def ItemsFitIn (room : Nat) : List Value → Prop
  | [] => True
  | v :: vs => v.FitsIn room ∧ ItemsFitIn room vs

def EntriesFitIn (room : Nat) : List (Text × Value) → Prop
  | [] => True
  | (_, v) :: vs => v.FitsIn room ∧ EntriesFitIn room vs

end

theorem numeral_of_writable {n : Int} (h : Text.Decimal.Writable n) : numeral n = .ok (Text.Decimal.ofInt n) := by
  unfold numeral
  rw [Text.Decimal.ofInt?_of_writable h]

theorem numeral_of_not_writable {n : Int} (h : ¬ Text.Decimal.Writable n) :
    numeral n = .error (.number .tooManyDigits) := by
  unfold numeral
  rw [Text.Decimal.ofInt?_of_not_writable h]

theorem numeral_iff (n : Int) : (∃ t, numeral n = .ok t) ↔ Text.Decimal.Writable n := by
  by_cases h : Text.Decimal.Writable n
  · simp [numeral_of_writable h, h]
  · simp [numeral_of_not_writable h, h]

theorem exists_map_eq_ok {f : Text → Text} {x : Except Fault Text} : (∃ t, x.map f = .ok t) ↔ ∃ t, x = .ok t := by
  cases x <;> simp [Except.map]

theorem exists_bind_eq_ok {f : Text → Except Fault Text} {x : Except Fault Text} :
    (∃ t, (x >>= f) = .ok t) ↔ ∃ a, x = .ok a ∧ ∃ t, f a = .ok t := by
  cases x <;> simp [bind, Except.bind]

mutual

theorem quotedIn_iff (room : Nat) (v : Value) : (∃ t, v.quotedIn room = .ok t) ↔ v.FitsIn room := by
  cases room with
  | zero => cases v <;> simp [quotedIn, FitsIn]
  | succ inside =>
    cases v with
    | bool b => cases b <;> simp [quotedIn, FitsIn]
    | int n => simpa [quotedIn, FitsIn] using numeral_iff n
    | list items => simpa [quotedIn, FitsIn, exists_map_eq_ok] using quotedItems_iff inside items
    | dict entries => simpa [quotedIn, FitsIn, exists_map_eq_ok] using quotedEntries_iff inside entries
    | _ => simp [quotedIn, FitsIn]

theorem quotedItems_iff (room : Nat) (items : List Value) :
    (∃ t, quotedItems room items = .ok t) ↔ ItemsFitIn room items := by
  match items with
  | [] => simp [quotedItems, ItemsFitIn]
  | [v] => simpa [quotedItems, ItemsFitIn] using quotedIn_iff room v
  | v :: v' :: vs =>
    rw [ItemsFitIn, ← quotedIn_iff room v, ← quotedItems_iff room (v' :: vs), quotedItems.eq_3 _ _ _ (by simp)]
    simp [exists_bind_eq_ok, pure, Except.pure]

theorem quotedEntries_iff (room : Nat) (entries : List (Text × Value)) :
    (∃ t, quotedEntries room entries = .ok t) ↔ EntriesFitIn room entries := by
  match entries with
  | [] => simp [quotedEntries, EntriesFitIn]
  | [(k, v)] =>
    simpa [quotedEntries, EntriesFitIn, exists_bind_eq_ok, pure, Except.pure] using quotedIn_iff room v
  | (k, v) :: e :: vs =>
    rw [EntriesFitIn, ← quotedIn_iff room v, ← quotedEntries_iff room (e :: vs), quotedEntries.eq_3 _ _ _ _ (by simp)]
    simp [exists_bind_eq_ok, pure, Except.pure]

end

theorem shownIn_iff (room : Nat) (v : Value) :
    (∃ t, v.shownIn room = .ok t) ↔ v.FitsIn room ∨ ∃ s, v = text s := by
  cases v with
  | text s => simp [shownIn]
  | _ => simpa [shownIn] using quotedIn_iff room _

theorem answerIn_of_ne_null {v : Value} (h : v ≠ null) (room : Nat) :
    v.answerIn room =
      match v.shownIn (room - Room.toAnswer) with
      | .ok t => .text t
      | .error cause => .unwritable cause := by
  cases v with
  | null => exact absurd rfl h
  | _ => rfl

/-- A handler is answered for unless it answers with a value that is neither a text nor can
be written. -/
theorem answerIn_unwritable_iff (room : Nat) (v : Value) :
    (∃ cause, v.answerIn room = .unwritable cause) ↔
      v ≠ null ∧ (∀ s, v ≠ text s) ∧ ¬ v.FitsIn (room - Room.toAnswer) := by
  by_cases hnull : v = null
  · subst hnull
    simp [answerIn]
  have hshown := shownIn_iff (room - Room.toAnswer) v
  rw [answerIn_of_ne_null hnull]
  cases h : v.shownIn (room - Room.toAnswer) with
  | ok t =>
    simp only [h, Except.ok.injEq, exists_eq', true_iff] at hshown
    obtain hfits | ⟨s, rfl⟩ := hshown
    · simp [hfits]
    · simp
  | error cause =>
    simp only [h, reduceCtorEq, exists_false, false_iff, not_or, not_exists] at hshown
    simpa [hnull] using ⟨hshown.2, hshown.1⟩

theorem quotedIn_of_not_writable {room : Nat} (hroom : 0 < room) {n : Int} (h : ¬ Text.Decimal.Writable n) :
    (int n).quotedIn room = .error (.number .tooManyDigits) := by
  obtain ⟨inside, rfl⟩ := Nat.exists_eq_succ_of_ne_zero hroom.ne'
  rw [quotedIn, numeral_of_not_writable h]

theorem answerIn_of_not_writable {room : Nat} (hroom : Room.toAnswer < room) {n : Int}
    (h : ¬ Text.Decimal.Writable n) : (int n).answerIn room = .unwritable (.number .tooManyDigits) := by
  rw [answerIn_of_ne_null (by simp), shownIn, quotedIn_of_not_writable (Nat.sub_pos_of_lt hroom) h]
  simp

end Value

/-- The method `v` answers with this value. -/
def Expansion.valued (v : Value) : Registry (Action World) :=
  (Registry.build [⟨['v'], some ((Procedure.done v).act Server.absent), none, by decide, by simp⟩]).1

/-- The least integer that has too many digits. -/
def Value.tooLong : Value :=
  .int (10 ^ Text.Decimal.maxDigits : Nat)

theorem Expansion.dispatch_tooLong (w : World) :
    dispatch (valued .tooLong) ['v'] w = (.ok (.unwritable (.number .tooManyDigits)), w) := by
  have hlong : ¬ Text.Decimal.Writable (10 ^ Text.Decimal.maxDigits : Nat) := lt_irrefl _
  have hanswer : Value.tooLong.answerIn Room.full = .unwritable (.number .tooManyDigits) :=
    Value.answerIn_of_not_writable (by decide) hlong
  have hdispatch : dispatch (valued .tooLong) ['v'] w = (.ok (Value.tooLong.answerIn Room.full), w) := rfl
  rw [hdispatch, hanswer]

end TagExpander
