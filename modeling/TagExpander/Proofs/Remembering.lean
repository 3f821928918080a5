import TagExpander.Library.Methods
import TagExpander.Proofs.CallByValue
import TagExpander.Proofs.Locality
import TagExpander.Proofs.Splitting

/-! A variable keeps the text that it is bound to. The text is expanded inside of the
marker that binds it, as it is alone; only the pipe behind the name is cut at, and what is
read back is shielded, so no brace, pipe or backslash in it has a meaning on the way. -/

namespace TagExpander

variable {σ : Type}

open StandIn

namespace Expansion

variable {reg : Registry (Action σ)}

theorem substitute_text {contents answer : Text} {st left : σ}
    (hd : dispatch reg contents st = (.ok (.text answer), left)) :
    substitute reg contents st = (.ok (shield answer), left) :=
  substitute_eq_ok_iff.2 ⟨_, hd, rfl⟩

/-- A marker that holds no other one, and nothing beside it. -/
theorem outcome_answered {contents : Text} (ho : '{' ∉ contents) (hc : '}' ∉ contents) {st left : σ} {answer : Text}
    (hd : dispatch reg contents st = (.ok (.text answer), left)) :
    let out := (course reg [] [] (Marker.braced contents) st).whole.outcome
    out.Gives (restore answer) ∧ out.state = left ∧ out.calls = [(Call.ofContents contents, st)] := by
  have hreverse : substitute reg (contents.reverse ++ []).reverse st = (.ok (shield answer), left) := by
    simpa using substitute_text hd
  rw [Marker.braced, List.cons_append, course_open, course_append reg ho hc, course_answer _ _ _ hreverse, course_nil]
  refine ⟨⟨rfl, congrArg Except.ok ?_⟩, rfl, ?_⟩
  · simp [unwound, restore_shield]
  · simp [Course.whole, Run.cons, Run.outcome, Outcome.calls]

theorem whole_of_empty {top : Text} {st left : σ} (hd : dispatch reg top.reverse st = (.ok (.text []), left))
    (r : Text) : ∃ visit : Visit σ, visit.contents = top.reverse ∧ visit.state = st ∧
      (course reg top [[]] ('}' :: r) st).whole = (course reg [] [] r left).whole.cons visit := by
  refine ⟨⟨top.reverse, r, (unwound ('}' :: r) top [[]]).length, st⟩, rfl, rfl, ?_⟩
  rw [course_answer _ _ _ (substitute_text hd)]
  rfl

/-- A marker comes to nothing, once what is in it has come to a text, and a marker that
holds no other one follows it. -/
theorem outcome_of_empty {piece t text contents : Text} {st left left' : σ} {halt : Halt} {answer : Text}
    (ho : '{' ∉ piece) (hc : '}' ∉ piece) (ho' : '{' ∉ contents) (hc' : '}' ∉ contents) (ht : Nested 0 t)
    (hending : (course reg [] [] t st).whole.ending = .reached halt text)
    (hd : dispatch reg (piece ++ text) (course reg [] [] t st).whole.state = (.ok (.text []), left))
    (hd' : dispatch reg contents left = (.ok (.text answer), left')) :
    let inner := (course reg [] [] t st).whole.outcome
    let out := (course reg [] [] ('{' :: (piece ++ (t ++ '}' :: Marker.braced contents))) st).whole.outcome
    out.Gives (restore answer) ∧ out.state = left' ∧
      out.calls = inner.calls ++ [(Call.ofContents (piece ++ text), inner.state), (Call.ofContents contents, left)] := by
  intro inner out
  obtain ⟨hgives, hstate, hcalls⟩ := outcome_answered ho' hc' hd'
  rw [← List.reverse_reverse (piece ++ text)] at hd
  obtain ⟨visit, hcontents, hvisit, hempty⟩ := whole_of_empty hd (Marker.braced contents)
  have hout : out = (((course reg [] [] (Marker.braced contents) left).whole.cons visit).prepend
      ((course reg [] [] t st).whole.inside ('{' :: piece) ('}' :: Marker.braced contents)).visits).outcome := by
    simp only [out]
    rw [whole_opened reg ho hc ht, Run.andThen_of_reached (Run.inside _ _ _) hending]
    exact congrArg (fun run => (Run.prepend _ run).outcome) hempty
  have hcons : ((course reg [] [] (Marker.braced contents) left).whole.cons visit).outcome.calls =
      [(Call.ofContents (piece ++ text), inner.state), (Call.ofContents contents, left)] := by
    rw [← hcalls, ← List.reverse_reverse (piece ++ text), ← hcontents]
    exact congrArg (fun st' => (Call.ofContents visit.contents, st') :: _) hvisit
  rw [hout]
  exact ⟨hgives, hstate, by rw [Run.calls_prepend, Run.calls_inside, hcons]⟩

end Expansion

theorem Parser.expand_of_silent {parser : Parser} {input : Text} {w : World}
    (h : (TagExpander.expand parser.outermost parser.limits input w).records = []) :
    parser.expand input w = TagExpander.expand parser.outermost parser.limits input w := by
  have hexpand : parser.expand input w = parser.expandBy parser.outermost input w := rfl
  rw [hexpand, expandBy]
  generalize TagExpander.expand parser.outermost parser.limits input w = out at h ⊢
  obtain ⟨answer, records, state, visits⟩ := out
  simp only at h
  simp [h]

namespace Library

structure Remembers (parser : Parser) : Prop where
  set : parser.registry.get? "set".toList = method? "set".toList
  get : parser.registry.get? "get".toList = method? "get".toList

/-- A text is bound to a name and then read back. -/
def setAndGet (name text : Text) : Text :=
  Marker.braced ("set:".toList ++ name ++ '|' :: text) ++ Marker.braced ("get:".toList ++ name)

/-- A name that a variable can be given: some of it is no white space, no stand-in and no
brace is in it, and the pipe that is put behind it cuts, and no pipe before that. -/
structure IsVariable (name : Text) : Prop where
  plain : IsPlain name
  free : ∀ c ∈ name, c ∉ escapable
  closed : name.getLast? ≠ some '\\'
  seen : ∃ c ∈ name, Text.isBlank c = false

theorem IsVariable.trim_ne_nil {name : Text} (h : IsVariable name) : name.trim ≠ [] := by
  obtain ⟨c, hc, hseen⟩ := h.seen
  obtain ⟨l, r, hname, hl, hr, -, -⟩ := Text.exists_trim name
  intro hnil
  rw [hnil, List.append_nil] at hname
  rw [hname] at hc
  rcases List.mem_append.1 hc with hc | hc
  · rw [hl c hc] at hseen
    cases hseen
  · rw [hr c hc] at hseen
    cases hseen

theorem IsVariable.splitMost {name : Text} (h : IsVariable name) (text : Text) :
    Params.splitMost 1 (name ++ '|' :: text) = [name, text] := by
  have huncut : Params.Uncut name := fun a b hname =>
    absurd (by decide) (h.free '|' (by rw [hname]; simp))
  rw [Params.splitMost_cut huncut h.closed, Params.splitMost_zero]

theorem perform_set {name : Text} (h : IsVariable name) (text : Text) (server : Server) (w : World) :
    (set (name ++ '|' :: text)).perform server w =
      (.ok (.text []), w.setHere (w.here.insert name.trim (.text text))) := by
  have hseen : name.trim.isEmpty = false := by simpa using h.trim_ne_nil
  unfold set
  simp only [h.splitMost, List.headD_cons, hseen]
  rfl

theorem perform_get {name text : Text} {w : World} (h : w.here.get? name.trim = some (.text text)) (server : Server) :
    (get name).perform server w = (.ok (.text text), w) := by
  rw [get]
  simp only [bind, Procedure.environment, Procedure.bind, Procedure.perform, h]
  rfl

theorem hide_setAndGet {name text : Text} (h : IsVariable name) (hlast : text.getLast? ≠ some '\\') :
    hide (setAndGet name text) =
      '{' :: (("set:".toList ++ name ++ ['|']) ++ (hide text ++ '}' :: Marker.braced ("get:".toList ++ name))) := by
  have hconcat (a : Text) {c : Char} (hc : c ≠ '\\') : (a ++ [c]).getLast? ≠ some '\\' := by simpa using hc
  have hpiece : scan ("set:".toList ++ name ++ ['|']) = "set:".toList ++ name ++ ['|'] := by
    rw [scan_append_of_getLast? (getLast?_append_ne (by decide) h.closed), scan_append_of_getLast? (by decide),
      scan_of_notMem h.free]
    rfl
  have hread : scan ("get:".toList ++ name) = "get:".toList ++ name := by
    rw [scan_append_of_getLast? (by decide), scan_of_notMem h.free]
    rfl
  have hset : setAndGet name text = Marker.braced ("set:".toList ++ name ++ ['|'] ++ text) ++
      Marker.braced ("get:".toList ++ name) := by simp [setAndGet]
  have hbraced : (Marker.braced ("set:".toList ++ name ++ ['|'] ++ text)).getLast? ≠ some '\\' :=
    hconcat _ (by decide)
  rw [hide_eq_scan, hide_eq_scan, hset, scan_append_of_getLast? hbraced,
    scan_braced (getLast?_append_ne (hconcat _ (by decide)) hlast),
    scan_braced (getLast?_append_ne (by decide) h.closed), scan_append_of_getLast? (hconcat _ (by decide)), hpiece, hread]
  simp [Marker.braced]

theorem Remembers.dispatch_set {parser : Parser} (h : Remembers parser) {name : Text} (hname : IsVariable name)
    (text : Text) (w : World) :
    let contents := "set:".toList ++ name ++ ['|'] ++ text
    Call.ofContents contents = ⟨"set".toList, some (name ++ '|' :: restore text)⟩ ∧
      Expansion.dispatch parser.outermost contents w =
        (.ok (.text []), w.setHere (w.here.insert name.trim (.text (restore text)))) := by
  intro contents
  have hcall : Call.ofContents contents = ⟨"set".toList, some (name ++ '|' :: restore text)⟩ := by
    have hcontents : contents = "set".toList ++ ':' :: (name ++ '|' :: text) := by simp [contents]
    rw [hcontents, Call.ofContents_append (by decide), restore_append, restore_of_isPlain hname.plain,
      restore_cons_of_notMem (by decide)]
    rfl
  refine ⟨hcall, ?_⟩
  rw [Expansion.dispatch, hcall, Parser.outermost, Parser.actions, Registry.action?_map, Registry.action?, h.set]
  exact Procedure.act_of_answer (perform_set hname _ _ w)

theorem Remembers.dispatch_get {parser : Parser} (h : Remembers parser) {name text : Text} (hname : IsVariable name)
    {w : World} (hw : w.here.get? name.trim = some (.text text)) :
    let contents := "get:".toList ++ name
    Call.ofContents contents = ⟨"get".toList, some name⟩ ∧
      Expansion.dispatch parser.outermost contents w = (.ok (.text text), w) := by
  intro contents
  have hcall : Call.ofContents contents = ⟨"get".toList, some name⟩ := by
    have hcontents : contents = "get".toList ++ ':' :: name := by simp [contents]
    rw [hcontents, Call.ofContents_append (by decide), restore_of_isPlain hname.plain]
    rfl
  refine ⟨hcall, ?_⟩
  rw [Expansion.dispatch, hcall, Parser.outermost, Parser.actions, Registry.action?_map, Registry.action?, h.get]
  exact Procedure.act_of_answer (perform_get hw _)

theorem IsVariable.notMem {name : Text} (h : IsVariable name) {c : Char} (hc : c ∈ escapable) {a : Text}
    (ha : c ∉ a) : c ∉ a ++ name := by
  simpa [ha] using fun hmem => h.free c hmem hc

theorem Remembers.outcome_setAndGet {parser : Parser} (h : Remembers parser) {name text reached : Text}
    (hname : IsVariable name) (htext : Brackets.Balanced text) (hlast : text.getLast? ≠ some '\\') {w : World}
    {halt : Halt}
    (hending : (Expansion.course parser.outermost [] [] (hide text) w).whole.ending = .reached halt reached) :
    let alone := (Expansion.course parser.outermost [] [] (hide text) w).whole.outcome
    let both := (Expansion.course parser.outermost [] [] (hide (setAndGet name text)) w).whole.outcome
    let left := alone.state.setHere (alone.state.here.insert name.trim (.text (restore reached)))
    both.Gives (restore reached) ∧ both.state = left ∧
      both.calls = alone.calls ++ [(⟨"set".toList, some (name ++ '|' :: restore reached)⟩, alone.state),
        (⟨"get".toList, some name⟩, left)] := by
  intro alone both left
  have hbound : left.here.get? name.trim = some (.text (restore reached)) := by
    rw [World.here_setHere, Table.get?_insert, if_pos rfl]
  obtain ⟨hset, hwritten⟩ := h.dispatch_set hname reached alone.state
  obtain ⟨hget, hread⟩ := h.dispatch_get hname hbound
  have hpiece {c : Char} (hc : c ∈ escapable) (hpipe : c ≠ '|') (hfixed : c ∉ "set:".toList) :
      c ∉ "set:".toList ++ name ++ ['|'] := by
    simpa [hpipe] using hname.notMem hc hfixed
  have hout := Expansion.outcome_of_empty (hpiece (c := '{') (by decide) (by decide) (by decide))
    (hpiece (c := '}') (by decide) (by decide) (by decide)) (hname.notMem (c := '{') (by decide) (by decide))
    (hname.notMem (c := '}') (by decide) (by decide)) (Brackets.nested_hide htext) hending hwritten hread
  rw [hset, hget] at hout
  simp only [both, hide_setAndGet hname hlast]
  rw [restore_of_isPlain (isPlain_restore reached)] at hout
  exact hout

/-- A variable keeps what a text comes to. If the text alone comes to `x`, then binding the
text to a name and reading the name comes to `x` as well. What is left is what the text
alone leaves, with `x` under the trimmed name and all other entries as they are. -/
theorem variable_keeps_text {parser : Parser} (hparser : Remembers parser) {name text x : Text} {w : World}
    (hname : IsVariable name) (htext : Brackets.Balanced text) (hlast : text.getLast? ≠ some '\\')
    (hx : (parser.expand text w).Gives x) (hboth : (parser.expand (setAndGet name text) w).Unlimited) :
    let alone := parser.expand text w
    let both := parser.expand (setAndGet name text) w
    let left := alone.state.setHere (alone.state.here.insert name.trim (.text x))
    both.Gives x ∧ both.state = left ∧
      (∀ k, left.here.get? k = if k = name.trim then some (.text x) else alone.state.here.get? k) ∧
      both.calls = alone.calls ++ [(⟨"set".toList, some (name ++ '|' :: x)⟩, alone.state),
        (⟨"get".toList, some name⟩, left)] := by
  intro alone both left
  have halone : alone = (Expansion.course parser.outermost [] [] (hide text) w).whole.outcome :=
    (Parser.expand_of_silent hx.1).trans (Expansion.expand_of_unlimited hx.unlimited)
  have hraw : TagExpander.expand parser.outermost parser.limits (setAndGet name text) w = _ :=
    Expansion.expand_of_unlimited hboth
  have hgiven : alone.Gives x := hx
  rw [halone] at hgiven
  obtain ⟨halt, reached, hending, rfl⟩ := Run.gives_outcome_iff.1 hgiven
  obtain ⟨hgives, hstate, hcalls⟩ := hparser.outcome_setAndGet hname htext hlast hending
  rw [← hraw] at hgives hstate hcalls
  rw [← halone, ← Parser.expand_of_silent hgives.1] at hstate hcalls
  rw [← Parser.expand_of_silent hgives.1] at hgives
  refine ⟨hgives, hstate, fun k => ?_, hcalls⟩
  rw [World.here_setHere, Table.get?_insert]

/-- The methods for variables, and `b`, which answers with a pipe, a brace, a colon and a
backslash. -/
def rememberingParser : Parser :=
  ⟨(Registry.build (texting ['b'] (some "|\x7b:\\".toList) answer ::
    ["set".toList, "get".toList].filterMap method?)).1, Limits.default⟩

/-- A text that binds the same name on its way and ends in a backslash. -/
theorem variable_keeps_text_sample :
    let w : World := ⟨Table.empty, some (Table.empty.insert ['k'] (.int 1)), [], [], []⟩
    let text := "\x7bset:a:b|o\\\x7d\x7d\x7bget:a:b \x7d|\x7bb\x7d".toList
    let x := "o\\\x7d||\x7b:\\".toList
    let both := rememberingParser.expand (setAndGet " a:b".toList text) w
    both.answer = .ok x ∧ both.state.here.get? "a:b".toList = some (.text x) ∧
      both.state.here.get? ['k'] = some (.int 1) := by
  intro w text x both
  have hparser : Remembers rememberingParser := ⟨rfl, rfl⟩
  have hname : IsVariable " a:b".toList := ⟨by decide, by simp [escapable], by decide, 'a', by decide, by decide⟩
  have hx : (rememberingParser.expand text w).Gives x := ⟨rfl, rfl⟩
  have hboth : (rememberingParser.expand (setAndGet " a:b".toList text) w).Unlimited := by decide +kernel
  obtain ⟨hgives, hstate, hleft, -⟩ := variable_keeps_text hparser hname (by decide) (by decide) hx hboth
  refine ⟨hgives.2, ?_, ?_⟩
  · rw [hstate, hleft]
    rfl
  · rw [hstate, hleft]
    rfl

end Library

end TagExpander
