import TagExpander.Builder
import TagExpander.Proofs.Writable

/-! A builder as a state machine. A limit is set to a positive integer or not at all, and
methods are added up to the first offer that is none. So a builder with positive limits
keeps them positive, and it can always build. A parser that was built is its own: what is
done to the builder later makes no difference to it. A value is refused with a message that
shows it, so one that cannot be written is not told of as refused. -/

namespace TagExpander

def Limits.of (ls : Limits) : LimitName → Limit
  | .iterations => ls.iterations
  | .maxLength => ls.maxLength
  | .maxOutput => ls.maxOutput

theorem Limit.ofValue_of_pos (name : LimitName) {n : Int} (h : 0 < n) :
    ∃ limit, Limit.ofValue name (.int n) = .ok limit ∧ limit.toValue = .int n := by
  refine ⟨_, dif_pos h, congrArg Value.int ?_⟩
  exact Int.toNat_of_nonneg h.le

/-- What a message shows of a value that is refused: the integer that it stands for, or
else the value. -/
def Value.told (v : Value) : Value :=
  match v.toInt? with
  | .ok (some n) => .int n
  | _ => v

/-- Only an infinite number is out of the range of integers. -/
theorem Value.toInt?_error {v : Value} {cause : NumberFault} (h : v.toInt? = .error cause) :
    ∃ negative, v = .float (.infinite negative) := by
  cases v with
  | float x =>
    cases x with
    | infinite negative => exact ⟨negative, rfl⟩
    | finite _ _ _ => cases h
    | undefined => cases h
  | _ => cases h

theorem Value.refusal_of_fitsIn {v : Value} (h : v.FitsIn Room.full) (argument : Text → InvalidArgument) :
    ∃ t, v.refusal argument = .invalidArgument (argument t) := by
  obtain ⟨t, ht⟩ := (quotedIn_iff _ v).2 h
  exact ⟨t, by rw [refusal, ht]⟩

theorem Value.refusal_of_not_fitsIn {v : Value} (h : ¬ v.FitsIn Room.full) (argument : Text → InvalidArgument) :
    v.quotedIn Room.full = .error (v.refusal argument) := by
  rw [← quotedIn_iff] at h
  unfold refusal
  cases hquoted : v.quotedIn Room.full with
  | ok t => exact absurd ⟨t, hquoted⟩ h
  | error cause => rfl

namespace Registry

variable {α : Type}

theorem get?_foldl_register (methods : List (Method α)) (s : Registry α × List Record) (name : Text) :
    (methods.foldl register s).1.get? name = ((methods.filter (·.name = name)).getLast?).or (s.1.get? name) := by
  induction methods generalizing s with
  | nil => rfl
  | cons m methods ih =>
    rw [List.foldl_cons, ih, register, Table.get?_insert]
    by_cases hname : m.name = name
    · rw [List.filter_cons_of_pos (by simpa using hname), List.getLast?_cons, if_pos hname.symm]
      cases (methods.filter (·.name = name)).getLast? <;> rfl
    · rw [List.filter_cons_of_neg (by simpa using hname), if_neg (Ne.symm hname)]

theorem get?_build (methods : List (Method α)) (name : Text) :
    (build methods).1.get? name = (methods.filter (·.name = name)).getLast? := by
  rw [build, get?_foldl_register, Table.get?_empty, Option.or_none]

end Registry

namespace Builder

variable {b : Builder}

def limit (b : Builder) : LimitName → Int
  | .iterations => b.iterations
  | .maxLength => b.maxLength
  | .maxOutput => b.maxOutput

@[simp] theorem limit_setLimit (b : Builder) (name other : LimitName) (n : Int) :
    (b.setLimit name n).limit other = if other = name then n else b.limit other := by
  cases name <;> cases other <;> rfl

@[simp] theorem methods_setLimit (b : Builder) (name : LimitName) (n : Int) :
    (b.setLimit name n).methods = b.methods := by
  cases name <;> rfl

def Positive (b : Builder) : Prop := ∀ name, 0 < b.limit name

/-- What setting a limit to a value can come to. The limit becomes the integer that the
value stands for, and nothing else is changed; or the value stands for no positive integer,
and nothing is changed. Then it is refused, or its message cannot be written and the fault
is that of writing it. -/
inductive Sets (b : Builder) (name : LimitName) (v : Value) : Except Fault Unit → Builder → Prop
  | stored {n : Int} {b' : Builder} (value : v.toInt? = .ok (some n)) (positive : 0 < n) (own : b'.limit name = n)
      (others : ∀ other, other ≠ name → b'.limit other = b.limit other) (methods : b'.methods = b.methods) :
      Sets b name v (.ok ()) b'
  | refused {cause : InvalidArgument} (value : ∀ n, v.toInt? = .ok (some n) → n ≤ 0)
      (written : v.told.FitsIn Room.full) : Sets b name v (.error (.invalidArgument cause)) b
  | untold {cause : Fault} (value : ∀ n, v.toInt? = .ok (some n) → n ≤ 0)
      (unwritten : ¬ v.told.FitsIn Room.full) (told : v.told.quotedIn Room.full = .error cause) :
      Sets b name v (.error cause) b

/-- What adding methods can come to. All offers are methods and are added, or those before
the first other value are, and that value is refused. -/
inductive Adds (b : Builder) (offers : List Offer) : Except Fault Unit → Builder → Prop
  | all {ms : List (Method Handler)} (h : offers = ms.map .ok) :
      Adds b offers (.ok ()) { b with methods := b.methods ++ ms }
  | upTo {ms : List (Method Handler)} {v : Value} {rest : List Offer} (h : offers = ms.map .ok ++ .error v :: rest) :
      Adds b offers (.error (.invalidArgument (.notMethod v))) { b with methods := b.methods ++ ms }

/-- The parser has the limits of the builder and, for each name, the method of this name
that was added last. -/
structure Yields (b : Builder) (parser : Parser) : Prop where
  limits : ∀ name, (parser.limits.of name).toValue = .int (b.limit name)
  methods : ∀ name, parser.registry.get? name = (b.methods.filter (·.name = name)).getLast?

theorem set_cases (b : Builder) (name : LimitName) (v : Value) :
    (∃ n, v.toInt? = .ok (some n) ∧ 0 < n ∧ b.set name v = (.ok (), b.setLimit name n)) ∨
      ∃ fault, (∀ n, v.toInt? = .ok (some n) → n ≤ 0) ∧ b.set name v = (.error fault, b) ∧
        ((∃ argument, fault = v.told.refusal argument) ∨ ∃ negative, v = .float (.infinite negative)) := by
  unfold set Value.told
  rcases hv : v.toInt? with cause | (_ | n)
  · exact Or.inr ⟨_, nofun, rfl, Or.inr (Value.toInt?_error hv)⟩
  · exact Or.inr ⟨_, nofun, rfl, Or.inl ⟨_, rfl⟩⟩
  · by_cases hn : n ≤ 0
    · refine Or.inr ⟨_, fun k hk => ?_, if_pos hn, Or.inl ⟨_, rfl⟩⟩
      cases hk
      exact hn
    · exact Or.inl ⟨n, rfl, Int.not_le.1 hn, if_neg hn⟩

theorem sets_set {name : LimitName} {v : Value} (hv : ∀ negative, v ≠ .float (.infinite negative)) :
    b.Sets name v (b.set name v).1 (b.set name v).2 := by
  obtain ⟨n, hvalue, hpos, hset⟩ | ⟨fault, hvalue, hset, hfault⟩ := set_cases b name v
  · rw [hset]
    exact .stored hvalue hpos (by simp) (fun other hother => by simp [hother]) (by simp)
  · rw [hset]
    obtain ⟨argument, rfl⟩ | ⟨negative, rfl⟩ := hfault
    · by_cases hwritten : v.told.FitsIn Room.full
      · obtain ⟨t, ht⟩ := Value.refusal_of_fitsIn hwritten argument
        rw [ht]
        exact .refused hvalue hwritten
      · exact .untold hvalue hwritten (Value.refusal_of_not_fitsIn hwritten argument)
    · exact absurd rfl (hv negative)

theorem set_of_not_writable (b : Builder) (name : LimitName) {n : Int} (hn : n ≤ 0)
    (h : ¬ Text.Decimal.Writable n) : b.set name (.int n) = (.error (.number .tooManyDigits), b) := by
  have hrefusal (argument : Text → InvalidArgument) :
      (Value.int n).refusal argument = .number .tooManyDigits := by
    rw [Value.refusal, Value.quotedIn_of_not_writable (by decide) h]
  simp only [set, Value.toInt?, if_pos hn, hrefusal]

theorem addAll_append (b : Builder) (ms : List (Method Handler)) (rest : List Offer) :
    b.addAll (ms.map .ok ++ rest) = ({ b with methods := b.methods ++ ms } : Builder).addAll rest := by
  induction ms generalizing b with
  | nil => simp
  | cons m ms ih =>
    rw [List.map_cons, List.cons_append, addAll, ih]
    simp [add]

theorem offers_cases (offers : List Offer) :
    (∃ ms : List (Method Handler), offers = ms.map .ok) ∨
      ∃ (ms : List (Method Handler)) (v : Value) (rest : List Offer), offers = ms.map .ok ++ .error v :: rest := by
  induction offers with
  | nil => exact Or.inl ⟨[], rfl⟩
  | cons offer offers ih =>
    cases offer with
    | error v => exact Or.inr ⟨[], v, offers, rfl⟩
    | ok m =>
      obtain ⟨ms, rfl⟩ | ⟨ms, v, rest, rfl⟩ := ih
      · exact Or.inl ⟨m :: ms, rfl⟩
      · exact Or.inr ⟨m :: ms, v, rest, rfl⟩

theorem adds_addAll (b : Builder) (offers : List Offer) : b.Adds offers (b.addAll offers).1 (b.addAll offers).2 := by
  obtain ⟨ms, h⟩ | ⟨ms, v, rest, h⟩ := offers_cases offers
  · have hadd := addAll_append b ms []
    rw [List.append_nil, ← h] at hadd
    rw [hadd]
    exact .all h
  · have hadd := addAll_append b ms (.error v :: rest)
    rw [← h] at hadd
    rw [hadd]
    exact .upTo h

theorem Positive.yields (h : b.Positive) : ∃ parser records, b.build = .ok (parser, records) ∧ b.Yields parser := by
  obtain ⟨i, hi, hi'⟩ := Limit.ofValue_of_pos .iterations (h .iterations)
  obtain ⟨l, hl, hl'⟩ := Limit.ofValue_of_pos .maxLength (h .maxLength)
  obtain ⟨o, ho, ho'⟩ := Limit.ofValue_of_pos .maxOutput (h .maxOutput)
  have hlimits : Limits.ofValues (.int b.iterations) (.int b.maxLength) (.int b.maxOutput) = .ok ⟨i, l, o⟩ := by
    rw [Limits.ofValues, show Limit.ofValue .iterations (.int b.iterations) = _ from hi,
      show Limit.ofValue .maxLength (.int b.maxLength) = _ from hl,
      show Limit.ofValue .maxOutput (.int b.maxOutput) = _ from ho]
    rfl
  have hbuild : b.build = .ok (Parser.build b.methods ⟨i, l, o⟩) := by
    rw [build, hlimits]
    rfl
  refine ⟨_, _, hbuild, fun name => ?_, fun name => Registry.get?_build b.methods name⟩
  cases name
  · exact hi'
  · exact hl'
  · exact ho'

theorem Adds.limit {offers : List Offer} {reply : Except Fault Unit} {b' : Builder} (h : b.Adds offers reply b')
    (name : LimitName) : b'.limit name = b.limit name := by
  cases h <;> cases name <;> rfl

theorem Positive.apply (h : b.Positive) (c : Change) : (b.apply c).2.Positive := by
  intro other
  cases c with
  | add offers =>
    rw [Builder.apply, (adds_addAll b offers).limit]
    exact h other
  | set name v =>
    rw [Builder.apply]
    obtain ⟨n, -, hpos, hset⟩ | ⟨fault, -, hset, -⟩ := set_cases b name v
    · rw [hset, limit_setLimit]
      split_ifs
      · exact hpos
      · exact h other
    · rw [hset]
      exact h other

theorem positive_fresh {iterations maxLength maxOutput : Int} (hi : 0 < iterations) (hl : 0 < maxLength)
    (ho : 0 < maxOutput) : (fresh iterations maxLength maxOutput).Positive := by
  intro name
  cases name
  · exact hi
  · exact hl
  · exact ho

inductive Step where
  | change (c : Change)
  | build

structure Bench where
  builder : Builder
  built : List (Except Fault (Parser × List Record))

namespace Bench

def step (s : Bench) : Step → Bench
  | .change c => { s with builder := (s.builder.apply c).2 }
  | .build => { s with built := s.built ++ [s.builder.build] }

def after (s : Bench) (steps : List Step) : Bench :=
  steps.foldl step s

theorem after_append (s : Bench) (before later : List Step) :
    s.after (before ++ later) = (s.after before).after later := by
  simp [after, List.foldl_append]

theorem after_cons (s : Bench) (x : Step) (steps : List Step) : s.after (x :: steps) = (s.step x).after steps := rfl

theorem positive_step {s : Bench} (h : s.builder.Positive) (x : Step) : (s.step x).builder.Positive := by
  cases x with
  | change c => exact h.apply c
  | build => exact h

theorem positive_after {s : Bench} (h : s.builder.Positive) (steps : List Step) :
    (s.after steps).builder.Positive := by
  induction steps generalizing s with
  | nil => exact h
  | cons x steps ih => exact ih (positive_step h x)

/-- What was built stays as it is, whatever is done to the builder. -/
theorem built_prefix (s : Bench) (steps : List Step) : s.built <+: (s.after steps).built := by
  induction steps generalizing s with
  | nil => exact List.prefix_refl _
  | cons x steps ih =>
    refine List.IsPrefix.trans ?_ (ih (s.step x))
    cases x with
    | change c => exact List.prefix_refl _
    | build => exact List.prefix_append _ _

theorem built_after (s : Bench) (before later : List Step) :
    (s.after before).built ++ [(s.after before).builder.build] <+: (s.after (before ++ .build :: later)).built := by
  rw [after_append, after_cons]
  exact built_prefix ((s.after before).step .build) later

end Bench

/-- What holds of a builder at any time. A limit is set to a positive integer or not at all,
methods are added up to the first offer that is none, and a parser can be built, which leaves
the builder as it is. Each parser that was built has the limits and the methods that the
builder had when it was built, whatever was done later. -/
structure Bench.Sound (start : Bench) (steps : List Step) : Prop where
  positive : (start.after steps).builder.Positive
  sets : ∀ name v, (∀ negative, v ≠ .float (.infinite negative)) →
    let (reply, b) := (start.after steps).builder.apply (.set name v)
    (start.after steps).builder.Sets name v reply b
  adds : ∀ offers,
    let (reply, b) := (start.after steps).builder.apply (.add offers)
    (start.after steps).builder.Adds offers reply b
  builds : ∃ parser records, (start.after steps).builder.build = .ok (parser, records) ∧
    (start.after steps).builder.Yields parser
  unchanged : ((start.after steps).step .build).builder = (start.after steps).builder
  built : ∀ before later, steps = before ++ .build :: later →
    ∃ parser records, (start.after before).built ++ [.ok (parser, records)] <+: (start.after steps).built ∧
      (start.after before).builder.Yields parser

/-- A builder that begins with positive limits keeps them positive, whatever is done with
it. -/
theorem reachable_builds {iterations maxLength maxOutput : Int} (hi : 0 < iterations) (hl : 0 < maxLength)
    (ho : 0 < maxOutput) (steps : List Step) :
    Bench.Sound ⟨fresh iterations maxLength maxOutput, []⟩ steps := by
  set start : Bench := ⟨fresh iterations maxLength maxOutput, []⟩
  have hstart : start.builder.Positive := positive_fresh hi hl ho
  have hs : (start.after steps).builder.Positive := Bench.positive_after hstart steps
  refine ⟨hs, fun name v hv => sets_set hv, fun offers => adds_addAll _ offers, hs.yields, rfl, ?_⟩
  rintro before later rfl
  obtain ⟨parser, records, hbuild, hyields⟩ := (Bench.positive_after hstart before).yields
  refine ⟨parser, records, ?_, hyields⟩
  rw [← hbuild]
  exact start.built_after before later

def answering (answer : Char) : Method Handler :=
  ⟨['m'], some (.done (.text [answer])), none, by decide, by simp⟩

/-- Two methods of one name are added before a number is refused, and a third one after
the parser was built. -/
theorem reachable_builds_sample :
    let offers : List Offer := [.ok (answering 'x'), .ok (answering 'y'), .error (.int 3), .ok (answering 'z')]
    let before : List Step := [.change (.add offers), .change (.set .iterations (.text " +1_2".toList))]
    let later : List Step := [.change (.add [.ok (answering 'z')]), .change (.set .iterations (.bool true)),
      .change (.set .maxOutput (.float (.finite true 5 (-1))))]
    let s := (⟨fresh 9 99 999, []⟩ : Bench).after (before ++ .build :: later)
    (s.builder.limit .iterations = 1 ∧ s.builder.limit .maxOutput = 999) ∧
      ∃ parser records, [.ok (parser, records)] <+: s.built ∧ parser.limits.iterations.toValue = .int 12 ∧
        parser.registry.get? ['m'] = some (answering 'y') := by
  intro offers before later s
  have hsound := @reachable_builds 9 99 999 (by decide) (by decide) (by decide) (before ++ .build :: later)
  obtain ⟨parser, records, hmem, hyields⟩ := hsound.built before later rfl
  exact ⟨by decide +kernel, parser, records, hmem, hyields.limits .iterations, hyields.methods ['m']⟩

/-- An integer that is not positive is not refused as an invalid argument: it has too many
digits for the message. -/
theorem set_negative_untold :
    standard.apply (.set .iterations (.int (-(10 ^ Text.Decimal.maxDigits : Nat)))) =
      (.error (.number .tooManyDigits), standard) := by
  have huntold {n : Nat} (h : 10 ^ Text.Decimal.maxDigits ≤ n) :
      standard.apply (.set .iterations (.int (-n))) = (.error (.number .tooManyDigits), standard) := by
    refine set_of_not_writable standard .iterations (by omega) ?_
    unfold Text.Decimal.Writable
    omega
  exact huntold le_rfl

end Builder

end TagExpander
