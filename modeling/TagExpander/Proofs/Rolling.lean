import TagExpander.Proofs.Ranging

/-! Rolls that go wrong, whatever the roller is. What it raises while dice are read and rolled
is shown in the message of an abort. But something is left to compute when the total or the
text of a result is asked for, and an error that is raised then leaves the method. -/

namespace TagExpander

namespace Library

variable {roller : Roller}

def totalText (roller : Roller) (room : Nat) (result : roller.Rolled) : Except Fault Text := do
  (Value.int (← roller.total room result)).shownIn (room - (Room.toHandler + 1))

theorem shownIn_int_ne_roll (room : Nat) (n : Int) (e : RollError) :
    (Value.int n).shownIn room ≠ .error (.roll e) := by
  rw [Value.shownIn]
  · cases room with
    | zero => simp [Value.quotedIn]
    | succ inside =>
      rw [Value.quotedIn]
      by_cases h : Text.Decimal.Writable n
      · simp [Value.numeral_of_writable h]
      · simp [Value.numeral_of_not_writable h]
  · simp

theorem totalText_eq_roll_iff {room : Nat} {result : roller.Rolled} {e : RollError} :
    totalText roller room result = .error (.roll e) ↔ roller.total room result = .error (.roll e) := by
  unfold totalText
  cases h : roller.total room result with
  | error cause => simp [bind, Except.bind]
  | ok total => simpa [bind, Except.bind] using shownIn_int_ne_roll _ total e

def invalidRoll (dice : Text) (e : RollError) : Text :=
  "Invalid roll \x60".toList ++ dice ++ "\x60: ".toList ++ e.message

/-- How a method ends that rolls dice and then reads the result. -/
inductive RollEnd (roller : Roller) (reads : Nat → roller.Rolled → Except Fault Text) (room : Nat) (dice : Text)
    (w : World) : Except Stop Value × World → Prop
  | refused {e : RollError} {rest : List Nat} (h : roller.roll room dice.trim w.draws = (.error (.roll e), rest)) :
      RollEnd roller reads room dice w (.error (.abort (invalidRoll dice e)), { w with draws := rest })
  | unrolled {cause : Fault} {rest : List Nat} (h : roller.roll room dice.trim w.draws = (.error cause, rest))
      (hcause : ∀ e, cause ≠ .roll e) :
      RollEnd roller reads room dice w (.error (.fault cause), { w with draws := rest })
  | unread {result : roller.Rolled} {rest : List Nat} {cause : Fault}
      (h : roller.roll room dice.trim w.draws = (.ok result, rest)) (hread : reads room result = .error cause) :
      RollEnd roller reads room dice w (.error (.fault cause), { w with draws := rest })
  | shown {result : roller.Rolled} {rest : List Nat} {t : Text}
      (h : roller.roll room dice.trim w.draws = (.ok result, rest)) (hread : reads room result = .ok t) :
      RollEnd roller reads room dice w (.ok (.text t), { w with draws := rest })

/-- What is done with a result is to read it as a text, which is answered. -/
def Reads (roller : Roller) (reads : Nat → roller.Rolled → Except Fault Text) (next : roller.Rolled → Handler) : Prop :=
  ∀ result server w, (next result).perform server w =
    match reads server.room result with
    | .ok t => (.ok (.text t), w)
    | .error cause => (.error (.fault cause), w)

theorem rollEnd_rolled {reads : Nat → roller.Rolled → Except Fault Text} {next : roller.Rolled → Handler}
    (hnext : Reads roller reads next) (dice : Text) (server : Server) (w : World) :
    RollEnd roller reads server.room dice w ((rolled roller dice >>= next).perform server w) := by
  change RollEnd roller reads server.room dice w (((rolled roller dice).bind next).perform server w)
  rw [Procedure.perform_bind, rolled]
  simp only [bind, Procedure.room, Procedure.bind, Procedure.perform, Procedure.chance]
  rcases h : roller.roll server.room dice.trim w.draws with ⟨cause | result, rest⟩
  · cases cause with
    | roll e => exact .refused h
    | _ => exact .unrolled h (by simp)
  · simp only [pure, Procedure.perform, hnext result]
    cases hread : reads server.room result with
    | error cause => exact .unread h hread
    | ok t => exact .shown h hread

theorem reads_total (roller : Roller) : Reads roller (totalText roller) (fun result => do
    let total ← Procedure.orFault (roller.total (← Procedure.room) result)
    answer (← Procedure.shown (.int total))) := by
  intro result server w
  simp only [bind, Procedure.room, Procedure.bind, Procedure.perform, totalText]
  cases roller.total server.room result with
  | error cause => rfl
  | ok total =>
    simp only [Procedure.orFault, Procedure.bind, Procedure.shown, Procedure.perform, Except.bind]
    cases (Value.int total).shownIn (server.room - (Room.toHandler + 1)) <;> rfl

theorem reads_text (roller : Roller) : Reads roller roller.text (fun result => do
    answer (← Procedure.orFault (roller.text (← Procedure.room) result))) := by
  intro result server w
  simp only [bind, Procedure.room, Procedure.bind, Procedure.perform]
  cases roller.text server.room result <;> rfl

def AnswersOrAborts (out : Except Stop Value × World) : Prop :=
  (∃ t, out.1 = .ok (.text t)) ∨ ∃ message, out.1 = .error (.abort message)

/-- Dice that are rolled and read, or else are found wrong by the roller while it rolls them. -/
def Rollable (roller : Roller) (reads : Nat → roller.Rolled → Except Fault Text) (room : Nat) (dice : Text)
    (draws : List Nat) : Prop :=
  match (roller.roll room dice.trim draws).1 with
  | .ok result => ∃ t, reads room result = .ok t
  | .error cause => ∃ e, cause = .roll e

structure Rolls (roller : Roller) (reads : Nat → roller.Rolled → Except Fault Text) (room : Nat) (dice : Text)
    (w : World) (out : Except Stop Value × World) : Prop where
  draws : out.2 = { w with draws := (roller.roll room dice.trim w.draws).2 }
  answers : ∀ value, out.1 = .ok value ↔ ∃ result t, (roller.roll room dice.trim w.draws).1 = .ok result ∧
    reads room result = .ok t ∧ value = .text t
  aborts : ∀ message, out.1 = .error (.abort message) ↔ ∃ e,
    (roller.roll room dice.trim w.draws).1 = .error (.roll e) ∧ message = invalidRoll dice e
  faults : ∀ cause, out.1 = .error (.fault cause) ↔
    ((roller.roll room dice.trim w.draws).1 = .error cause ∧ ∀ e, cause ≠ .roll e) ∨
      ∃ result, (roller.roll room dice.trim w.draws).1 = .ok result ∧ reads room result = .error cause
  ends : AnswersOrAborts out ↔ Rollable roller reads room dice w.draws

section Ends

variable {reads : Nat → roller.Rolled → Except Fault Text} {room : Nat} {dice : Text} {w : World}
  {out : Except Stop Value × World}

theorem RollEnd.answersOrAborts_iff (h : RollEnd roller reads room dice w out) :
    AnswersOrAborts out ↔ Rollable roller reads room dice w.draws := by
  unfold AnswersOrAborts Rollable
  cases h with
  | refused h => simp [h]
  | unrolled h hcause => simp [h, hcause]
  | unread h hread => simp [h, hread]
  | shown h hread => simp [h, hread]

theorem RollEnd.fault_iff (h : RollEnd roller reads room dice w out) (cause : Fault) :
    out.1 = .error (.fault cause) ↔
      ((roller.roll room dice.trim w.draws).1 = .error cause ∧ ∀ e, cause ≠ .roll e) ∨
        ∃ result, (roller.roll room dice.trim w.draws).1 = .ok result ∧ reads room result = .error cause := by
  cases h with
  | @refused e rest h =>
    simp only [h, Except.error.injEq, reduceCtorEq, false_and, exists_false, or_false, false_iff, not_and]
    rintro rfl hcause
    exact hcause e rfl
  | @unrolled c rest h hc =>
    simp only [h, Except.error.injEq, Stop.fault.injEq, reduceCtorEq, false_and, exists_false, or_false]
    exact ⟨fun hcause => ⟨hcause, hcause ▸ hc⟩, And.left⟩
  | unread h hread => simp [h, hread]
  | shown h hread => simp [h, hread]

theorem RollEnd.rolls (h : RollEnd roller reads room dice w out) : Rolls roller reads room dice w out where
  draws := by cases h <;> simp only [*]
  answers value := by
    cases h with
    | refused h => simp [h]
    | unrolled h => simp [h]
    | unread h hread => simp [h, hread]
    | shown h hread => simp [h, hread, eq_comm]
  aborts message := by
    cases h with
    | refused h => simp [h, eq_comm]
    | unrolled h hcause => simp [h, hcause]
    | unread h => simp [h]
    | shown h => simp [h]
  faults := h.fault_iff
  ends := h.answersOrAborts_iff

/-- An error of the roller leaves the method if and only if it is raised by reading. -/
theorem Rolls.escapes_iff (h : Rolls roller reads room dice w out) {e : RollError} :
    out.1 = .error (.fault (.roll e)) ↔
      ∃ result, (roller.roll room dice.trim w.draws).1 = .ok result ∧ reads room result = .error (.roll e) := by
  rw [h.faults]
  simp

theorem Rolls.exists_read (h : Rolls roller reads room dice w out) {e : RollError} {below : Nat}
    (hends : out.1 = .error (.fault (.roll e)) ∨
      ∃ value, out.1 = .ok value ∧ value.answerIn below = .unwritable (.roll e)) :
    ∃ result, (roller.roll room dice.trim w.draws).1 = .ok result ∧ reads room result = .error (.roll e) := by
  obtain hfault | ⟨value, hvalue, hunwritten⟩ := hends
  · exact h.escapes_iff.1 hfault
  · -- what is answered is a text, so an expansion can answer with it
    obtain ⟨-, t, -, -, rfl⟩ := (h.answers value).1 hvalue
    cases hunwritten

end Ends

theorem rolls_roll (roller : Roller) (dice : Text) (server : Server) (w : World) :
    Rolls roller (totalText roller) server.room dice w ((roll roller dice).perform server w) :=
  (rollEnd_rolled (reads_total roller) dice server w).rolls

theorem rolls_rollInFull (roller : Roller) (dice : Text) (server : Server) (w : World) :
    Rolls roller roller.text server.room dice w ((rollInFull roller dice).perform server w) :=
  (rollEnd_rolled (reads_text roller) dice server w).rolls

def diceOf (call : Call) : Text :=
  call.params.getD oneDie

theorem action?_rolling (name : Text) (act : Text → Handler) (h : name ≠ [] ∧ name.trim = name)
    (params : Option Text) : (rolling name act h).action? params = some (act (params.getD oneDie)) := by
  cases params <;> rfl

structure RollsDice (roller : Roller) (parser : Parser) : Prop where
  roll : parser.registry.get? "roll".toList = some (rollMethod roller)
  rollInFull : parser.registry.get? "vroll".toList = some (rollInFullMethod roller)

/-- The dice of a call are rolled, but the roller raises an error when their total or their
text is asked for. -/
def Raises (roller : Roller) (call : Call) (draws : List Nat) (e : RollError) : Prop :=
  ∃ result, (roller.roll Room.full (diceOf call).trim draws).1 = .ok result ∧
    (call.name = "roll".toList ∧ roller.total Room.full result = .error (.roll e) ∨
      call.name = "vroll".toList ∧ roller.text Room.full result = .error (.roll e))

theorem RollsDice.action? {parser : Parser} (h : RollsDice roller parser) {call : Call} :
    (call.name = "roll".toList → parser.registry.action? call = some (Library.roll roller (diceOf call))) ∧
      (call.name = "vroll".toList → parser.registry.action? call = some (Library.rollInFull roller (diceOf call))) := by
  constructor <;> intro hname <;> rw [Registry.action?, hname]
  · rw [h.roll]
    exact action?_rolling _ _ _ _
  · rw [h.rollInFull]
    exact action?_rolling _ _ _ _

/-- An error of the roller that leaves an expansion was raised by reading what was rolled
last. -/
theorem RollsDice.raises_of_fault {parser : Parser} (h : RollsDice roller parser) {s : Text} {w : World} {e : RollError}
    (hfault : (parser.expand s w).answer = .error (.roll e)) :
    ∃ earlier v, (parser.expand s w).visits = earlier ++ [v] ∧
      ((Call.ofContents v.contents).name ∈ ["roll".toList, "vroll".toList] →
        Raises roller (Call.ofContents v.contents) v.state.draws e) := by
  obtain ⟨earlier, v, handler, hlast, hact, hends⟩ := Parser.exists_handler_of_fault hfault
  refine ⟨earlier, v, hlast, fun hname => ?_⟩
  rcases List.mem_pair.1 hname with hname | hname
  · cases hact.symm.trans (h.action?.1 hname)
    obtain ⟨result, hresult, hread⟩ := (rolls_roll roller _ _ v.state).exists_read hends
    exact ⟨result, hresult, Or.inl ⟨hname, totalText_eq_roll_iff.1 hread⟩⟩
  · cases hact.symm.trans (h.action?.2 hname)
    obtain ⟨result, hresult, hread⟩ := (rolls_rollInFull roller _ _ v.state).exists_read hends
    exact ⟨result, hresult, Or.inr ⟨hname, hread⟩⟩

/-- Where such a call comes first, the expansion faults. -/
theorem RollsDice.fault_of_raises {parser : Parser} (h : RollsDice roller parser) {s : Text} {w : World} {m : Marker}
    {e : RollError} (hshort : (StandIn.hide s).length ≤ parser.limits.maxLength.value)
    (hm : Marker.first? (StandIn.hide s) = some m) (hraises : Raises roller (Call.ofContents m.contents) w.draws e) :
    (parser.expand s w).answer = .error (.roll e) ∧
      (parser.expand s w).visits = [⟨m.contents, m.after, (StandIn.hide s).length, w⟩] := by
  obtain ⟨result, hresult, ⟨hname, hread⟩ | ⟨hname, hread⟩⟩ := hraises
  · exact Parser.fault_of_first hshort hm (h.action?.1 hname) fun respond =>
      (rolls_roll roller _ ⟨Room.full, respond⟩ w).escapes_iff.2 ⟨result, hresult, totalText_eq_roll_iff.2 hread⟩
  · exact Parser.fault_of_first hshort hm (h.action?.2 hname) fun respond =>
      (rolls_rollInFull roller _ ⟨Room.full, respond⟩ w).escapes_iff.2 ⟨result, hresult, hread⟩

/-- What the methods make of the errors that a roller raises. A roll takes random numbers and
leaves all else as it is. It answers with a text if the dice are rolled and read, and an error
of the roller aborts it, with a message that shows the dice as they are written. But an error
that is raised by reading the total or the text leaves the method, and it leaves an expansion
where its roll comes first. No other error of the roller does. -/
structure RollFaults (roller : Roller) : Prop where
  roll : ∀ dice server w,
    Rolls roller (totalText roller) server.room dice w ((Library.roll roller dice).perform server w)
  rollInFull : ∀ dice server w,
    Rolls roller roller.text server.room dice w ((Library.rollInFull roller dice).perform server w)
  total : ∀ room result e, totalText roller room result = .error (.roll e) ↔ roller.total room result = .error (.roll e)
  last : ∀ parser, RollsDice roller parser → ∀ s w e, (parser.expand s w).answer = .error (.roll e) →
    ∃ earlier v, (parser.expand s w).visits = earlier ++ [v] ∧
      ((Call.ofContents v.contents).name ∈ ["roll".toList, "vroll".toList] →
        Raises roller (Call.ofContents v.contents) v.state.draws e)
  first : ∀ parser, RollsDice roller parser → ∀ s w m e,
    (StandIn.hide s).length ≤ parser.limits.maxLength.value → Marker.first? (StandIn.hide s) = some m →
      Raises roller (Call.ofContents m.contents) w.draws e → (parser.expand s w).answer = .error (.roll e)

theorem rolls_fault_in_totals (roller : Roller) : RollFaults roller where
  roll := rolls_roll roller
  rollInFull := rolls_rollInFull roller
  total _ _ _ := totalText_eq_roll_iff
  last _ hparser _ _ _ hfault := hparser.raises_of_fault hfault
  first _ hparser _ _ _ _ hshort hm hraises := (hparser.fault_of_raises hshort hm hraises).1

def byZero : RollError := ⟨.badValue, "Cannot divide by zero.".toList⟩

/-- A roller that can read a division by zero and nothing else. It divides when the total or
the text is asked for. -/
def dividing : Roller where
  Rolled := Unit
  roll _ dice draws :=
    (if dice = "1/0".toList then .ok () else .error (.roll ⟨.unreadable, "Unexpected input.".toList⟩), draws)
  total _ _ := .error (.roll byZero)
  text _ _ := .error (.roll byZero)

def rollingParser (roller : Roller) : Parser :=
  ⟨(Registry.build [rollMethod roller, rollInFullMethod roller]).1, Limits.default⟩

/-- Dice that cannot be read, and a division by zero in a text. -/
theorem rolls_fault_in_totals_sample :
    let w := World.ofEnvironment Table.empty []
    let text := "a\x7bvroll: 1/0\x7d\x7broll\x7d".toList
    ((Library.roll dividing "1//".toList).perform Server.absent w).1 =
      .error (.abort "Invalid roll \x601//\x60: Unexpected input.".toList) ∧
    ((rollingParser dividing).expand text w).answer = .error (.roll byZero) ∧
    ∃ v, ((rollingParser dividing).expand text w).visits = [v] ∧
      Raises dividing (Call.ofContents v.contents) v.state.draws byZero := by
  intro w text
  have hparser : RollsDice dividing (rollingParser dividing) := ⟨rfl, rfl⟩
  have hfaults := rolls_fault_in_totals dividing
  have hshort : (StandIn.hide text).length ≤ (rollingParser dividing).limits.maxLength.value := by decide
  have hmarker : Marker.first? (StandIn.hide text) =
      some ⟨['a'], "vroll: 1/0".toList, "\x7broll\x7d".toList⟩ := rfl
  have hraises : Raises dividing (Call.ofContents "vroll: 1/0".toList) w.draws byZero :=
    ⟨(), rfl, Or.inr ⟨rfl, rfl⟩⟩
  have hanswer := hfaults.first _ hparser text w _ byZero hshort hmarker hraises
  obtain ⟨earlier, v, hlast, hlastRaises⟩ := hfaults.last _ hparser text w byZero hanswer
  have hvisits := (hparser.fault_of_raises hshort hmarker hraises).2
  obtain ⟨rfl, rfl⟩ : earlier = [] ∧ v = _ := by
    simpa [List.append_eq_singleton_iff] using hlast.symm.trans hvisits
  exact ⟨((hfaults.roll _ _ w).aborts _).2 ⟨_, rfl, rfl⟩, hanswer, _, hvisits, hlastRaises (by decide)⟩

/-- A division by zero leaves both methods, and the expansion, as it is. -/
theorem division_in_total_faults :
    let w := World.ofEnvironment Table.empty []
    (Library.roll dividing "1/0".toList).perform Server.absent w = (.error (.fault (.roll byZero)), w) ∧
      (rollInFull dividing "1/0".toList).perform Server.absent w = (.error (.fault (.roll byZero)), w) ∧
      ((rollingParser dividing).expand "\x7broll:1/0\x7d".toList w).answer = .error (.roll byZero) := by
  intro w
  have hmarker : Marker.first? (StandIn.hide "\x7broll:1/0\x7d".toList) = some ⟨[], "roll:1/0".toList, []⟩ := rfl
  have hraises : Raises dividing (Call.ofContents "roll:1/0".toList) w.draws byZero :=
    ⟨(), rfl, Or.inl ⟨rfl, rfl⟩⟩
  have hparser : RollsDice dividing (rollingParser dividing) := ⟨rfl, rfl⟩
  exact ⟨rfl, rfl, (hparser.fault_of_raises (by decide) hmarker hraises).1⟩

/-- The roller of the library divides as late. -/
example : ((Library.roll Dice.roller "1/0".toList).perform Server.absent (World.ofEnvironment Table.empty [])).1 =
    .error (.fault (.roll byZero)) := rfl

end Library

end TagExpander
