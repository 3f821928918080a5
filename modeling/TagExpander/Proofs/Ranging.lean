import TagExpander.Library.Methods
import TagExpander.Proofs.Confinement

/-! Random integers between two bounds. A numeral that is read has not too many digits, so
an integer between two bounds that were read can be written. Two bounds may come in either
order, but a single one has to be at least zero: with any other, nothing is between. -/

namespace TagExpander

namespace Text.Decimal

theorem digit?_le {c : Char} {d : Nat} (h : digit? c = some d) : d ≤ 9 := by
  obtain ⟨z, hz, rfl⟩ := Option.map_eq_some_iff.1 h
  have hbounds := List.find?_some hz
  simp only [Bool.and_eq_true, decide_eq_true_eq] at hbounds
  omega

/-- Each digit that is read makes the number at most ten times as large. -/
theorem readFrom_lt {value n : Nat} {afterDigit : Bool} {s : Text}
    (h : readFrom value afterDigit s = some n) : n < (value + 1) * 10 ^ s.countP (· ≠ '_') := by
  induction s generalizing value afterDigit with
  | nil =>
    rw [readFrom] at h
    split_ifs at h
    cases h
    simp
  | cons c r ih =>
    rw [readFrom] at h
    by_cases hc : c = '_'
    · rw [if_pos hc] at h
      split_ifs at h
      simpa [hc] using ih h
    · rw [if_neg hc] at h
      cases hd : digit? c with
      | none =>
        rw [hd] at h
        cases h
      | some d =>
        rw [hd] at h
        have hdigit := digit?_le hd
        have hrest := ih h
        rw [List.countP_cons_of_pos (by simpa using hc), pow_succ]
        calc n < (value * 10 + d + 1) * 10 ^ r.countP (· ≠ '_') := hrest
          _ ≤ (value + 1) * 10 * 10 ^ r.countP (· ≠ '_') := Nat.mul_le_mul_right _ (by omega)
          _ = (value + 1) * (10 ^ r.countP (· ≠ '_') * 10) := by ring

theorem readNat?_lt {s : Text} {n : Nat} (h : readNat? s = some n) : n < 10 ^ maxDigits := by
  rw [readNat?] at h
  split_ifs at h with hdigits
  calc n < (0 + 1) * 10 ^ s.countP (· ≠ '_') := readFrom_lt h
    _ = 10 ^ s.countP (· ≠ '_') := by ring
    _ ≤ 10 ^ maxDigits := Nat.pow_le_pow_right (by decide) (Nat.not_lt.1 hdigits)

theorem writable_of_readInt? {s : Text} {n : Int} (h : readInt? s = some n) : Writable n := by
  unfold Writable
  rw [readInt?] at h
  split at h
  · obtain ⟨m, hm, rfl⟩ := Option.map_eq_some_iff.1 h
    obtain ⟨k, hk, hcast⟩ := Option.bind_eq_some_iff.1 hm
    cases hcast
    simpa using readNat?_lt hk
  · obtain ⟨m, hm, rfl⟩ := Option.map_eq_some_iff.1 h
    exact readNat?_lt hm
  · obtain ⟨m, hm, rfl⟩ := Option.map_eq_some_iff.1 h
    exact readNat?_lt hm

theorem Writable.between {low high n : Int} (hlow : Writable low) (hhigh : Writable high) (h : low ≤ n)
    (h' : n ≤ high) : Writable n := by
  have hsize : n.natAbs ≤ max low.natAbs high.natAbs := by omega
  exact hsize.trans_lt (max_lt hlow hhigh)

end Text.Decimal

theorem Procedure.perform_chance {α β : Type} (server : Server) (f : List Nat → α × List Nat)
    (k : α → Procedure β) (w : World) :
    (Procedure.chance f >>= k).perform server w =
      (k (f w.draws).1).perform server { w with draws := (f w.draws).2 } := rfl

theorem drawBelow_snd (n : Nat) (draws : List Nat) : (drawBelow n draws).2 = draws.tail := by
  cases draws <;> rfl

namespace Library

open Text

/-- A handler that answers with a random integer between two bounds, both of them
included. It takes one random number, does nothing else, and can come to each integer. -/
structure Draws (low high : Int) (handler : Handler) : Prop where
  between : ∀ server (w : World), ∃ n t, low ≤ n ∧ n ≤ high ∧ Decimal.ofInt? n = some t ∧
    handler.perform server w = (.ok (.text t), { w with draws := w.draws.tail })
  each : ∀ n, low ≤ n → n ≤ high → ∀ server (w : World), ∃ r,
    (handler.perform server { w with draws := r :: w.draws }).1 = .ok (.text (Decimal.ofInt n))

theorem perform_between {low high : Int} (h : low ≤ high) (server : Server) (w : World) :
    (between low high).perform server w =
      (.ok (.text (Decimal.ofInt (low + (drawBelow (high - low + 1).toNat w.draws).1))),
        { w with draws := w.draws.tail }) := by
  rw [between, if_neg (by omega), Procedure.perform_chance, drawBelow_snd]
  rfl

theorem draws_between {low high : Int} (h : low ≤ high) (hlow : Decimal.Writable low)
    (hhigh : Decimal.Writable high) : Draws low high (between low high) where
  between server w := by
    have hdraw := drawBelow_lt (n := (high - low + 1).toNat) (by omega) w.draws
    have hlow' : low ≤ low + (drawBelow (high - low + 1).toNat w.draws).1 := by omega
    have hhigh' : low + (drawBelow (high - low + 1).toNat w.draws).1 ≤ high := by omega
    exact ⟨_, _, hlow', hhigh', Decimal.ofInt?_of_writable (hlow.between hhigh hlow' hhigh'),
      perform_between h server w⟩
  each n hn hn' server w := by
    refine ⟨(n - low).toNat, ?_⟩
    have hmod : (n - low).toNat % (high - low + 1).toNat = (n - low).toNat := Nat.mod_eq_of_lt (by omega)
    have hsum : low + ((n - low).toNat : Int) = n := by omega
    rw [perform_between h, drawBelow, hmod, hsum]

def bound? (part : Text) : Option Int :=
  Decimal.readInt? part.trim

/-- The span that parts ask for: the first two parts are its ends in either order, or zero and
the only part are. -/
def span? : List Text → Option (Int × Int)
  | [] => none
  | [p] => (bound? p).map fun n => (min 0 n, max 0 n)
  | p :: q :: _ => (bound? p).bind fun a => (bound? q).map fun b => (min a b, max a b)

theorem bounds?_single (p : Text) : bounds? [p] = (bound? p).map fun n => (0, n) := by
  unfold bounds? bound?
  cases h : Decimal.readInt? p.trim <;> simp [h]

theorem bounds?_pair (p q : Text) (more : List Text) :
    bounds? (p :: q :: more) = (bound? p).bind fun a => (bound? q).map fun b => (min a b, max a b) := by
  unfold bounds? bound?
  cases hp : Decimal.readInt? p.trim with
  | none => simp [hp]
  | some a => cases hq : Decimal.readInt? q.trim <;> simp [hp, hq]

/-- The ends of a span were read, so all that is in it can be written. -/
theorem span?_writable {parts : List Text} {low high : Int} (h : span? parts = some (low, high)) :
    low ≤ high ∧ Decimal.Writable low ∧ Decimal.Writable high := by
  have hends : ∀ a b, Decimal.Writable a → Decimal.Writable b →
      min a b ≤ max a b ∧ Decimal.Writable (min a b) ∧ Decimal.Writable (max a b) := by
    intro a b ha hb
    refine ⟨min_le_max, ?_, ?_⟩
    · rcases min_choice a b with h | h <;> rw [h] <;> assumption
    · rcases max_choice a b with h | h <;> rw [h] <;> assumption
  match parts, h with
  | [p], h =>
    obtain ⟨n, hn, hspan⟩ := Option.map_eq_some_iff.1 h
    cases hspan
    exact hends 0 n (Nat.pow_pos (by decide)) (Decimal.writable_of_readInt? hn)
  | p :: q :: more, h =>
    obtain ⟨a, ha, hrest⟩ := Option.bind_eq_some_iff.1 h
    obtain ⟨b, hb, hspan⟩ := Option.map_eq_some_iff.1 hrest
    cases hspan
    exact hends a b (Decimal.writable_of_readInt? ha) (Decimal.writable_of_readInt? hb)

/-- A range answers with an integer of its span, or aborts if it has none, with a message that
shows the parameters as they are written. -/
def DrawsOrAborts (params : Text) : Prop :=
  match span? (Params.split params) with
  | some (low, high) => Draws low high (range (Params.split params))
  | none => ∀ (server : Server) (w : World), (range (Params.split params)).perform server w =
      (.error (.abort ("Invalid range: ".toList ++ params)), w)

def LoneNegative (params : Text) : Prop :=
  ∃ p n, Params.split params = [p] ∧ bound? p = some n ∧ n < 0

theorem range_of_bounds {parts : List Text} {low high : Int} (h : bounds? parts = some (low, high)) :
    range parts = between low high := by
  rw [range, h]

theorem range_of_loneNegative {params : Text} (h : LoneNegative params) :
    range (Params.split params) = .stop (.fault .badValue) := by
  obtain ⟨p, n, hparts, hp, hn⟩ := h
  rw [hparts, range_of_bounds (by rw [bounds?_single, hp]; rfl), between, if_pos hn]

/-- The bounds are the ends of the span, but for a single one below zero. -/
theorem bounds?_eq_span? {params : Text} (h : ¬ LoneNegative params) :
    bounds? (Params.split params) = span? (Params.split params) := by
  match hparts : Params.split params with
  | [] => exact absurd hparts (Params.split_ne_nil params)
  | [p] =>
    rw [bounds?_single, span?]
    cases hp : bound? p with
    | none => rfl
    | some n =>
      have hn : 0 ≤ n := Int.not_lt.1 fun hn => h ⟨p, n, hparts, hp, hn⟩
      simp [hn]
  | p :: q :: more => rw [bounds?_pair, span?]

theorem drawsOrAborts_of_not_loneNegative {params : Text} (h : ¬ LoneNegative params) : DrawsOrAborts params := by
  have hbounds := bounds?_eq_span? h
  unfold DrawsOrAborts
  cases hspan : span? (Params.split params) with
  | none =>
    intro server w
    rw [range, hbounds, hspan, Params.join_split]
    rfl
  | some span =>
    obtain ⟨hle, hlow, hhigh⟩ := span?_writable hspan
    rw [range_of_bounds (hbounds.trans hspan)]
    exact draws_between hle hlow hhigh

theorem DrawsOrAborts.ne_fault {params : Text} (h : DrawsOrAborts params) (server : Server) (w : World)
    (cause : Fault) : ((range (Params.split params)).perform server w).1 ≠ .error (.fault cause) := by
  intro hfault
  unfold DrawsOrAborts at h
  cases hspan : span? (Params.split params) with
  | none =>
    rw [hspan] at h
    rw [h server w] at hfault
    cases hfault
  | some span =>
    rw [hspan] at h
    obtain ⟨n, t, -, -, -, hperform⟩ := h.between server w
    rw [hperform] at hfault
    cases hfault

/-- A single bound below zero is all that makes a range fault. -/
theorem range_fault_iff {params : Text} {server : Server} {w : World} {cause : Fault} :
    ((range (Params.split params)).perform server w).1 = .error (.fault cause) ↔
      cause = .badValue ∧ LoneNegative params := by
  constructor
  · intro hfault
    have hlone : LoneNegative params := by
      by_contra h
      exact (drawsOrAborts_of_not_loneNegative h).ne_fault server w cause hfault
    rw [range_of_loneNegative hlone] at hfault
    cases hfault
    exact ⟨rfl, hlone⟩
  · rintro ⟨rfl, hlone⟩
    rw [range_of_loneNegative hlone]
    rfl

theorem text_of_range {parts : List Text} {server : Server} {w : World} {v : Value}
    (h : ((range parts).perform server w).1 = .ok v) : ∃ t, v = .text t := by
  unfold range at h
  cases hbounds : bounds? parts with
  | none =>
    rw [hbounds] at h
    cases h
  | some span =>
    rw [hbounds] at h
    by_cases hspan : span.2 < span.1
    · simp only [between, if_pos hspan] at h
      cases h
    · simp only [between, if_neg hspan, Procedure.perform_chance] at h
      cases h
      exact ⟨_, rfl⟩

/-- A range answers with an integer of its span and can come to each of them, or aborts where
it has no span, unless its only bound is below zero: then it faults, and it has no other
fault. An expansion that a range makes fault has such a range, and it faults where one
comes first. -/
theorem range_draws_or_aborts (params : Text) :
    (DrawsOrAborts params ↔ ¬ LoneNegative params) ∧
    (∀ (server : Server) (w : World) cause,
      ((range (Params.split params)).perform server w).1 = .error (.fault cause) ↔
        cause = .badValue ∧ LoneNegative params) ∧
    ∀ (parser : Parser), parser.registry.get? "range".toList = method? "range".toList →
      (∀ s w cause, (parser.expand s w).answer = .error cause →
        ∃ earlier v, (parser.expand s w).visits = earlier ++ [v] ∧
          ((Call.ofContents v.contents).name = "range".toList → cause = .badValue ∧
            ∃ bound, (Call.ofContents v.contents).params = some bound ∧ LoneNegative bound)) ∧
      ∀ s w m, (StandIn.hide s).length ≤ parser.limits.maxLength.value →
        Marker.first? (StandIn.hide s) = some m → Call.ofContents m.contents = ⟨"range".toList, some params⟩ →
        LoneNegative params → (parser.expand s w).answer = .error .badValue := by
  refine ⟨⟨fun h hlone => ?_, drawsOrAborts_of_not_loneNegative⟩, fun server w cause => range_fault_iff,
    fun parser hrange => ⟨fun s w cause hfault => ?_, fun s w m hshort hm hcall hlone => ?_⟩⟩
  · exact h.ne_fault Server.absent (World.ofEnvironment Table.empty []) .badValue
      (range_fault_iff.2 ⟨rfl, hlone⟩)
  · obtain ⟨earlier, v, handler, hlast, hact, hperform⟩ := Parser.exists_handler_of_fault hfault
    refine ⟨earlier, v, hlast, fun hname => ?_⟩
    rw [Registry.action?, hname, hrange] at hact
    cases hparams : (Call.ofContents v.contents).params with
    | none =>
      rw [hparams] at hact
      cases hact
    | some bound =>
      rw [hparams] at hact
      cases hact
      obtain hperform | ⟨value, hvalue, hunwritten⟩ := hperform
      · obtain ⟨hcause, hlone⟩ := range_fault_iff.1 hperform
        exact ⟨hcause, bound, rfl, hlone⟩
      · obtain ⟨t, rfl⟩ := text_of_range hvalue
        cases hunwritten
  · have hact : parser.registry.action? (Call.ofContents m.contents) = some (range (Params.split params)) := by
      rw [Registry.action?, hcall, hrange]
      rfl
    exact (Parser.fault_of_first hshort hm hact fun respond => range_fault_iff.2 ⟨rfl, hlone⟩).1

def parser : Parser := ⟨(Registry.build methods).1, Limits.default⟩

/-- Bounds in falling order with white space around them, a bound that is a word, a single
bound, and one below zero in a text. -/
theorem range_draws_or_aborts_sample :
    let w := World.ofEnvironment Table.empty [7, 1]
    let text := "\x7bnote:2\x7d\x7brange:-5\x7d".toList
    Draws (-3) 9 (range (Params.split " 9|-3 |x".toList)) ∧
    (range (Params.split "9|x".toList)).perform Server.absent w =
      (.error (.abort "Invalid range: 9|x".toList), w) ∧
    Draws 0 5 (range (Params.split "5".toList)) ∧
    (parser.expand "\x7brange:-5\x7d".toList w).answer = .error .badValue ∧
    ∃ v ∈ (parser.expand text w).visits, ∃ bound,
      (Call.ofContents v.contents).params = some bound ∧ LoneNegative bound := by
  intro w text
  have hpair : DrawsOrAborts " 9|-3 |x".toList := (range_draws_or_aborts _).1.2 (by
    rintro ⟨p, n, hparts, -⟩
    have hlength : 3 = 1 := congrArg List.length hparts
    exact absurd hlength (by decide))
  have hword : DrawsOrAborts "9|x".toList := (range_draws_or_aborts _).1.2 (by
    rintro ⟨p, n, hparts, -⟩
    have hlength : 2 = 1 := congrArg List.length hparts
    exact absurd hlength (by decide))
  have hsingle : DrawsOrAborts ['5'] := (range_draws_or_aborts _).1.2 (by
    rintro ⟨p, n, hparts, hp, hn⟩
    obtain rfl : ['5'] = p := List.head_eq_of_cons_eq hparts
    obtain rfl : 5 = n := Option.some.inj hp
    exact absurd hn (by decide))
  obtain ⟨-, -, hparser⟩ := range_draws_or_aborts "-5".toList
  obtain ⟨hfault, hfirst⟩ := hparser parser rfl
  have hnegative : LoneNegative "-5".toList := ⟨"-5".toList, -5, rfl, rfl, by decide⟩
  have hmarker : Marker.first? (StandIn.hide "\x7brange:-5\x7d".toList) = some ⟨[], "range:-5".toList, []⟩ := rfl
  obtain ⟨earlier, v, hlast, htag⟩ := hfault text w .badValue rfl
  have hname : (parser.expand text w).visits.getLast?.map (fun v => (Call.ofContents v.contents).name) =
      some "range".toList := rfl
  rw [hlast, List.getLast?_concat, Option.map_some] at hname
  obtain ⟨-, bound, hbound, hlone⟩ := htag (Option.some.inj hname)
  exact ⟨hpair, hword Server.absent w, hsingle, hfirst _ w _ (by decide) hmarker rfl hnegative,
    v, by simp [hlast], bound, hbound, hlone⟩

/-- A single bound below zero faults, alone and in a text, though it has a span. -/
theorem range_below_zero_faults :
    let w := World.ofEnvironment Table.empty [3]
    span? (Params.split "-5".toList) = some (-5, 0) ∧
      ((range (Params.split "-5".toList)).perform Server.absent w).1 = .error (.fault .badValue) ∧
      (parser.expand "\x7brange:-5\x7d".toList w).answer = .error .badValue := by
  intro w
  exact ⟨rfl, rfl, rfl⟩

end Library

end TagExpander
