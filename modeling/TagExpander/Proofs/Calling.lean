import TagExpander.Proofs.CallByValue
import TagExpander.Proofs.Confinement
import TagExpander.Proofs.RoundTrip

/-! Which names can be called. A name may be registered that no marker can ever look up,
for what a marker looks up is the trimmed text before its first colon, once the escapes
are hidden. The names that their own marker calls are those without a brace, a colon and
an escaped pipe that do not escape the closing brace. -/

namespace TagExpander

variable {σ : Type}

open StandIn

/-- A name that survives between the braces of a marker. -/
structure Text.IsCallable (name : Text) : Prop where
  noOpen : '{' ∉ name
  noClose : '}' ∉ name
  noColon : ':' ∉ name
  noPipe : ¬ ['\\', '|'] <:+: name
  closed : name.getLast? ≠ some '\\'

def Text.AllBlank (s : Text) : Prop := ∀ c ∈ s, isBlank c = true

/-- Each brace of the parameters stands right behind a backslash. In front of the
parameters is a colon. -/
def Text.BracesEscaped (params : Text) : Prop :=
  (':' :: params).IsChain fun c d => d = '{' ∨ d = '}' → c = '\\'

instance (params : Text) : Decidable params.BracesEscaped :=
  inferInstanceAs (Decidable (List.IsChain _ _))

def Limits.Admits (limits : Limits) (input : Text) : Prop :=
  (hide input).length ≤ limits.maxLength.value

instance (limits : Limits) (input : Text) : Decidable (limits.Admits input) :=
  inferInstanceAs (Decidable (_ ≤ _))

/-- One call is made, for which a method has the action `act`, and nothing but this action
changes the state `st`. -/
structure Outcome.CallsOnly (out : Outcome σ) (reg : Registry (Action σ)) (call : Call) (act : Action σ)
    (st : σ) : Prop where
  calls : out.calls = [(call, st)]
  found : reg.action? call = some act
  state : out.state = (act st).2

namespace StandIn

theorem notMem_scan {x : Char} (hx : x ∉ all) {s : Text} (h : x ∉ s) : x ∉ scan s := by
  induction s using scan_induction with
  | nil => exact h
  | escape c r hc ih =>
    simp only [List.mem_cons, not_or] at h
    have hne : x ≠ hidden c := fun he => hx (he ▸ hidden_mem_all hc)
    rw [scan_escape hc]
    simpa using ⟨hne, ih h.2.2⟩
  | char c r hs ih =>
    simp only [List.mem_cons, not_or] at h
    rw [scan_cons hs]
    simpa using ⟨h.1, ih h.2⟩

theorem pipe_notInfix_scan (s : Text) : ¬ ['\\', '|'] <:+: scan s :=
  fun h => pipe_notInfix_shield s (h.map shieldChar)

theorem noBraces_scan {x : Char} {s : Text} (h : (x :: s).IsChain fun c d => d = '{' ∨ d = '}' → c = '\\')
    (hx : ¬ Straddles [x] s) : '{' ∉ scan s ∧ '}' ∉ scan s := by
  induction s using scan_induction generalizing x with
  | nil => exact ⟨List.not_mem_nil, List.not_mem_nil⟩
  | escape c r hc ih =>
    have hs : ¬ Straddles [c] r := fun h => ne_backslash hc (by simpa using h.1)
    obtain ⟨ho, hcl⟩ := ih h.tail.tail hs
    rw [scan_escape hc]
    simpa using ⟨⟨Ne.symm (hidden_ne hc).1, ho⟩, Ne.symm (hidden_ne hc).2, hcl⟩
  | char c r hs ih =>
    -- a brace behind the backslash `x` would be an escape
    have hc : ¬ (c = '{' ∨ c = '}') := fun hc =>
      hx ⟨by simp [h.rel hc], c, rfl, by rcases hc with rfl | rfl <;> decide⟩
    obtain ⟨ho, hcl⟩ := ih h.tail hs
    rw [not_or] at hc
    rw [scan_cons hs]
    simpa using ⟨⟨Ne.symm hc.1, ho⟩, Ne.symm hc.2, hcl⟩

end StandIn

namespace Text

variable {name before after : Text}

theorem AllBlank.notMem {s : Text} (h : s.AllBlank) {c : Char} (hc : isBlank c = false) : c ∉ s := by
  intro hmem
  rw [h c hmem] at hc
  cases hc

theorem AllBlank.getLast?_ne {s : Text} (h : s.AllBlank) : s.getLast? ≠ some '\\' :=
  fun hlast => h.notMem (by decide) (List.mem_of_getLast? hlast)

theorem AllBlank.scan_eq {s : Text} (h : s.AllBlank) : scan s = s := by
  refine scan_of_notMem fun c hc hmem => ?_
  rcases mem_escapable.1 hmem with rfl | rfl | rfl <;> exact h.notMem (by decide) hc

theorem IsCallable.scan_eq (h : name.IsCallable) : scan name = name := by
  refine scan_eq_self fun c hc hin => ?_
  rcases mem_escapable.1 hc with rfl | rfl | rfl
  · exact h.noOpen (hin.subset (by simp))
  · exact h.noPipe hin
  · exact h.noClose (hin.subset (by simp))

theorem IsCallable.spaced (h : name.IsCallable) (hb : before.AllBlank) (ha : after.AllBlank) :
    (before ++ name ++ after).IsCallable := by
  have hnone {c : Char} (hc : isBlank c = false) (hmem : c ∉ name) : c ∉ before ++ name ++ after := by
    simp [hb.notMem hc, hmem, ha.notMem hc]
  have hclosed : (before ++ name).getLast? ≠ some '\\' := getLast?_append_ne hb.getLast?_ne h.closed
  have hscan : scan (before ++ name ++ after) = before ++ name ++ after := by
    rw [scan_append_of_getLast? hclosed, scan_append_of_getLast? hb.getLast?_ne, hb.scan_eq, h.scan_eq, ha.scan_eq]
  refine ⟨hnone (by decide) h.noOpen, hnone (by decide) h.noClose, hnone (by decide) h.noColon, fun hpipe => ?_,
    getLast?_append_ne hclosed ha.getLast?_ne⟩
  rw [← hscan] at hpipe
  exact pipe_notInfix_scan _ hpipe

theorem trim_spaced (h : name.trim = name) (hb : before.AllBlank) (ha : after.AllBlank) :
    (before ++ name ++ after).trim = name :=
  have hends := (stripBy_eq_self_iff isBlank name).1 h
  trim_append hb ha hends.1 hends.2

end Text

namespace Call

theorem ofContents_of_notMem {contents : Text} (h : ':' ∉ contents) : ofContents contents = ⟨contents.trim, none⟩ := by
  rw [ofContents, ofText, Text.cut?_of_notMem h]
  rfl

theorem name_of_params {contents name : Text} (h : ofContents contents = ⟨name, none⟩) : name = contents.trim := by
  rw [ofContents, ofText] at h
  split at h
  · cases h
    rfl
  · cases h

end Call

namespace Expansion

variable {reg : Registry (Action σ)} {limits : Limits} {input contents : Text}

theorem calls_of_notMem (h : '}' ∉ hide input) (st : σ) : (expand reg limits input st).calls = [] := by
  have hvisits : (run reg limits input st).visits = [] := by
    obtain ⟨-, hrun⟩ | ⟨-, hrounds⟩ := run_rounds reg limits input st
    · rw [hrun]
    · simpa [List.count_eq_zero.2 h] using hrounds.length_visits_le
  exact congrArg (List.map _) hvisits

/-- A single marker is called once, whatever its method answers and whatever the limits
are that admit the pass. -/
theorem calls_of_single (ho : '{' ∉ contents) (hc : '}' ∉ contents) (hinput : hide input = Marker.braced contents)
    (hadmits : limits.Admits input) (st : σ) :
    let out := expand reg limits input st
    out.calls = [(Call.ofContents contents, st)] ∧ out.state = (dispatch reg contents st).2 := by
  have hvisits : ∃ v, (run reg limits input st).visits = [v] ∧ v.contents = contents := by
    rw [run_eq_within, if_neg (Nat.not_lt.2 hadmits), hinput, Marker.braced, List.cons_append, course_open,
      course_append reg ho hc]
    rcases hd : substitute reg (contents.reverse ++ []).reverse st with ⟨stop | new, left⟩
    · rw [course_stop _ _ _ hd, Course.within_stopped]
      exact ⟨_, rfl, by simp⟩
    · rw [course_answer _ _ _ hd, course_nil]
      cases limits.iterations.value - 1 with
      | zero => exact ⟨_, rfl, by simp⟩
      | succ more =>
        rw [Course.within_answered]
        split_ifs
        · exact ⟨_, rfl, by simp⟩
        · rw [Course.within_settled]
          exact ⟨_, rfl, by simp⟩
  obtain ⟨v, hv, hcontents⟩ := hvisits
  have hchained := run_chained reg limits input st
  rw [hv] at hchained
  obtain ⟨rfl, hleft⟩ := hchained
  subst hcontents
  exact ⟨congrArg (List.map _) hv, hleft⟩

theorem callsOnly_of_single {call : Call} {act : Action σ} (ho : '{' ∉ contents) (hc : '}' ∉ contents)
    (hinput : hide input = Marker.braced contents) (hcall : Call.ofContents contents = call)
    (hact : reg.action? call = some act) (hadmits : limits.Admits input) (st : σ) :
    (expand reg limits input st).CallsOnly reg call act st := by
  obtain ⟨hcalls, hstate⟩ := calls_of_single ho hc hinput hadmits st
  refine ⟨hcall ▸ hcalls, hact, ?_⟩
  rw [hstate, dispatch, hcall, hact]

/-- The marker of a name that ends in a backslash is not closed. -/
theorem close_notMem_hide {name : Text} (h : '}' ∉ name) (hlast : name.getLast? = some '\\') :
    '}' ∉ hide (Marker.braced name) := by
  obtain ⟨a, rfl⟩ := List.getLast?_eq_some_iff.1 hlast
  have hseam : ¬ Straddles ('{' :: a) ['\\', '}'] := by
    rintro ⟨-, c, hc, hmem⟩
    exact ne_backslash hmem (by simpa using hc.symm)
  have hescape : scan ['\\', '}'] = [escapedClose] := rfl
  have hbraced : Marker.braced (a ++ ['\\']) = '{' :: a ++ ['\\', '}'] := by simp [Marker.braced]
  rw [hide_eq_scan, hbraced, scan_append hseam, hescape, List.mem_append, not_or]
  exact ⟨notMem_scan (by decide) (by simpa using h), by decide⟩

theorem isCallable_of_called {name : Text} {st : σ} (hadmits : limits.Admits (Marker.braced name))
    (h : ⟨name, none⟩ ∈ (expand reg limits (Marker.braced name) st).calls.map Prod.fst) : name.IsCallable := by
  have hname : name.IsName := by
    rw [Outcome.calls, List.map_map] at h
    obtain ⟨v, hv, hcall⟩ := List.mem_map.1 h
    have hlooked := ((run_confined reg limits (Marker.braced name) st).2 v hv).name
    rwa [show Call.ofContents v.contents = ⟨name, none⟩ from hcall] at hlooked
  have hclosed : name.getLast? ≠ some '\\' := fun hlast => by
    rw [calls_of_notMem (close_notMem_hide hname.noClose hlast)] at h
    cases h
  have hcall : Call.ofContents (scan name) = ⟨name, none⟩ := by
    have hhidden := (hide_eq_scan _).trans (scan_braced hclosed)
    rw [(calls_of_single (notMem_scan (by decide) hname.noOpen) (notMem_scan (by decide) hname.noClose) hhidden
      hadmits st).1] at h
    simpa [eq_comm] using h
  refine ⟨hname.noOpen, hname.noClose, hname.noColon, fun hpipe => pipe_notInfix_scan name ?_, hclosed⟩
  rw [Call.name_of_params hcall] at hpipe
  exact hpipe.trans (Text.trim_infix _)

variable {m : Method (Action σ)} {simple : Action σ} {complex : ComplexForm (Action σ)}

/-- What can be called calls the method whose name it is when trimmed. -/
theorem callsOnly_bare (hm : reg.get? m.name = some m) (hsimple : m.simple = some simple) (h : contents.IsCallable)
    (htrim : contents.trim = m.name) (hadmits : limits.Admits (Marker.braced contents)) (st : σ) :
    (expand reg limits (Marker.braced contents) st).CallsOnly reg ⟨m.name, none⟩ simple st := by
  have hhidden : hide (Marker.braced contents) = Marker.braced contents := by
    rw [hide_eq_scan, scan_braced h.closed, h.scan_eq]
  have hcall : Call.ofContents contents = ⟨m.name, none⟩ := by rw [Call.ofContents_of_notMem h.noColon, htrim]
  have hact : reg.action? ⟨m.name, none⟩ = some simple := by
    rw [Registry.action?, hm]
    exact hsimple
  exact callsOnly_of_single h.noOpen h.noClose hhidden hcall hact hadmits st

/-- With a colon behind it, it calls the other form of the method, on parameters as they
are written if each of their braces is escaped. -/
theorem callsOnly_params (hm : reg.get? m.name = some m) (hcomplex : m.complex = some complex)
    (h : contents.IsCallable) (htrim : contents.trim = m.name) {params : Text} (hplain : IsPlain params)
    (hescaped : params.BracesEscaped) (hlast : params.getLast? ≠ some '\\')
    (hadmits : limits.Admits (Marker.braced (contents ++ ':' :: params))) (st : σ) :
    (expand reg limits (Marker.braced (contents ++ ':' :: params)) st).CallsOnly reg ⟨m.name, some params⟩
      (complex.apply params) st := by
  have hcolon : ¬ Straddles [':'] params := fun hs => absurd hs.1 (by decide)
  obtain ⟨ho, hc⟩ := noBraces_scan hescaped hcolon
  have hhidden : hide (Marker.braced (contents ++ ':' :: params)) =
      Marker.braced (contents ++ ':' :: scan params) := by
    have hend : (contents ++ ':' :: params).getLast? ≠ some '\\' :=
      getLast?_append_ne h.closed (getLast?_append_ne (a := [':']) (by decide) hlast)
    rw [hide_eq_scan, scan_braced hend, scan_append_of_getLast? h.closed, h.scan_eq, scan_cons hcolon]
  have hcall : Call.ofContents (contents ++ ':' :: scan params) = ⟨m.name, some params⟩ := by
    rw [Call.ofContents_append h.noColon, htrim, restore_scan, restore_of_isPlain hplain]
  have hact : reg.action? ⟨m.name, some params⟩ = some (complex.apply params) := by
    rw [Registry.action?, hm]
    exact congrArg (Option.map _) hcomplex
  exact callsOnly_of_single (by simpa using ⟨h.noOpen, ho⟩) (by simpa using ⟨h.noClose, hc⟩) hhidden hcall hact
    hadmits st

/-- The names that can be called. Within limits that admit a pass, the marker of a
registered name calls its method if and only if nothing in the name ends the marker, ends
the name or is hidden as an escape. Then it does so between white space as well, and with
any parameters whose braces are escaped it calls the other form of the method, on these
parameters. No other call is made. -/
theorem called_iff_isCallable (hm : reg.get? m.name = some m) (hsimple : m.simple = some simple)
    (hcomplex : m.complex = some complex) (limits : Limits) (st : σ) :
    (limits.Admits (Marker.braced m.name) →
      (⟨m.name, none⟩ ∈ (expand reg limits (Marker.braced m.name) st).calls.map Prod.fst ↔ m.name.IsCallable)) ∧
    (m.name.IsCallable → ∀ before after : Text, before.AllBlank → after.AllBlank →
      let spaced := before ++ m.name ++ after
      (limits.Admits (Marker.braced spaced) →
        (expand reg limits (Marker.braced spaced) st).CallsOnly reg ⟨m.name, none⟩ simple st) ∧
      ∀ params : Text, IsPlain params → params.BracesEscaped → params.getLast? ≠ some '\\' →
        limits.Admits (Marker.braced (spaced ++ ':' :: params)) →
        (expand reg limits (Marker.braced (spaced ++ ':' :: params)) st).CallsOnly reg ⟨m.name, some params⟩
          (complex.apply params) st) := by
  refine ⟨fun hadmits => ⟨isCallable_of_called hadmits, fun hname => ?_⟩, fun hname before after hb ha => ?_⟩
  · simp [(callsOnly_bare hm hsimple hname m.name_valid.2 hadmits st).calls]
  · have htrim := Text.trim_spaced m.name_valid.2 hb ha
    exact ⟨fun hadmits => callsOnly_bare hm hsimple (hname.spaced hb ha) htrim hadmits st,
      fun params hplain hescaped hlast hadmits =>
        callsOnly_params hm hcomplex (hname.spaced hb ha) htrim hplain hescaped hlast hadmits st⟩

/-- A method whose name is this text. It counts its calls in the state and answers
with its parameters, joined. -/
def named (name : Text) (h : name ≠ [] ∧ name.trim = name) : Method (Action Nat) :=
  ⟨name, some fun k => (.ok .nothing, k + 1), some (.parts fun ps k => (.ok (.text (Params.join ps)), k + 10)), h, by simp⟩

/-- A name with a pipe, a backslash and a stand-in can be called, and one that ends in a
backslash cannot. -/
theorem called_iff_isCallable_sample :
    let m := named "a|\\b\x14".toList (by decide)
    let m' := named "a\\".toList (by decide)
    let reg := (Registry.build [m, m']).1
    let limits : Limits := ⟨Limit.count 1, Limit.count 20, Limit.count 5⟩
    let params := "\\\x7b|\\\x7d: ".toList
    (expand reg limits (Marker.braced (['\n'] ++ m.name ++ [' '])) 0).state = 1 ∧
      (expand reg limits (Marker.braced ([] ++ m.name ++ [' '] ++ ':' :: params)) 0).state = 10 ∧
      ⟨m'.name, none⟩ ∉ (expand reg limits (Marker.braced m'.name) 0).calls.map Prod.fst := by
  intro m m' reg limits params
  have hname : m.name.IsCallable := ⟨by decide, by decide, by decide, by decide, by decide⟩
  have hblank {c : Char} (hc : Text.isBlank c = true) : Text.AllBlank [c] := List.forall_mem_singleton.2 hc
  obtain ⟨-, hcalled⟩ := @called_iff_isCallable Nat reg m _ _ rfl rfl rfl limits 0
  obtain ⟨hfound, -⟩ := @called_iff_isCallable Nat reg m' _ _ rfl rfl rfl limits 0
  refine ⟨?_, ?_, fun h => ?_⟩
  · exact ((hcalled hname ['\n'] [' '] (hblank (by decide)) (hblank (by decide))).1 (by decide)).state
  · have hparams := (hcalled hname [] [' '] nofun (hblank (by decide))).2 params
    exact (hparams (by decide) (by decide) (by decide) (by decide)).state
  · exact absurd ((hfound (by decide)).1 h).closed (by decide)

end Expansion

end TagExpander
