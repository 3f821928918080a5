import TagExpander.Proofs.Framing
import TagExpander.Proofs.SinglePass

/-! A marker is called by value: its parameters expand as they do alone, and then its
method is called once, on the text they came to and the state they left. -/

namespace TagExpander

variable {σ : Type}

open StandIn

/-- What an expansion answers where a marker is the whole of its input, once the marker
has its reply. -/
def Marker.answer (contents : Text) (reply : Except Stop Answer) : Except Fault Text :=
  match reply >>= OnePass.replacement restore contents with
  | .ok t => .ok t
  | .error (.abort message) => .ok message
  | .error (.fault cause) => .error cause

theorem Call.ofContents_append {n : Text} (hn : ':' ∉ n) (params : Text) :
    Call.ofContents (n ++ ':' :: params) = ⟨n.trim, some (restore params)⟩ := by
  unfold Call.ofContents Call.ofText
  rw [Text.cut?_append hn]
  rfl

namespace StandIn

theorem scan_append_of_notMem {a r : Text} (h : ∀ c ∈ a, c ∉ escapable)
    (hr : ∀ c ∈ r.head?, c ∉ escapable) : scan (a ++ r) = a ++ scan r := by
  have hseam : ¬ Straddles a r := fun ⟨_, c, hc, hmem⟩ => hr c hc hmem
  rw [scan_append hseam, scan_of_notMem h]

/-- Hiding works on the parameters of a marker as on a text of its own. -/
theorem hide_marker {n t : Text} (hn : ∀ c ∈ n, c ∉ escapable) (ht : t.getLast? ≠ some '\\') :
    hide (Marker.braced (n ++ ':' :: t)) = '{' :: ((n ++ [':']) ++ (hide t ++ ['}'])) := by
  have hcolon : ¬ Straddles [':'] t := fun h => absurd h.1 (by decide)
  have hlast : (n ++ [':'] ++ t).getLast? ≠ some '\\' := getLast?_append_ne (by simp) ht
  rw [hide_eq_scan, hide_eq_scan, ← List.singleton_append, ← List.append_assoc, scan_braced hlast]
  rw [List.append_assoc, scan_append_of_notMem hn (by simp [escapable]), List.singleton_append, scan_cons hcolon]
  simp [Marker.braced]

end StandIn

namespace Expansion

theorem outcome_close (reg : Registry (Action σ)) (top : Text) (st : σ) :
    let out := (course reg top [[]] ['}'] st).whole.outcome
    let reply := OnePass.reply reg (Call.ofContents top.reverse) st
    out.answer = Marker.answer (restore top.reverse) reply.1 ∧ out.state = reply.2 ∧
      out.calls = [(Call.ofContents top.reverse, st)] := by
  intro out reply
  have hread : reply.1 >>= OnePass.replacement restore (restore top.reverse) =
      (substitute reg top.reverse st).1.map restore := dispatch_bind_replacement reg top.reverse st
  have hstate : reply.2 = (substitute reg top.reverse st).2 := rfl
  rw [Marker.answer, hread, hstate]
  rcases hd : substitute reg top.reverse st with ⟨stop | new, st'⟩
  · have hwhole := course_stop top [] (r := []) hd []
    simp only [out, hwhole]
    cases stop <;> exact ⟨rfl, rfl, rfl⟩
  · have hwhole := course_answer top [] (r := []) hd []
    simp only [out, hwhole, course_nil]
    refine ⟨congrArg Except.ok ?_, rfl, rfl⟩
    simp [unwound]

theorem whole_marker (reg : Registry (Action σ)) {n t : Text} (hn : ∀ c ∈ n, c ∉ escapable)
    (ht : Brackets.Balanced t) (hlast : t.getLast? ≠ some '\\') (st : σ) :
    (course reg [] [] (hide (Marker.braced (n ++ ':' :: t))) st).whole =
      ((course reg [] [] (hide t) st).whole.inside ('{' :: n ++ [':']) ['}']).andThen
        fun text st' => (course reg (n ++ ':' :: text).reverse [[]] ['}'] st').whole := by
  have hopen : '{' ∉ n ++ [':'] := by simpa using fun h => hn _ h (by decide)
  have hclose : '}' ∉ n ++ [':'] := by simpa using fun h => hn _ h (by decide)
  have hwhole := whole_opened reg hopen hclose (Brackets.nested_hide ht) ['}'] st
  rw [hide_marker hn hlast]
  simpa using hwhole

/-- The parameters of a marker are expanded first, with the calls they make alone. If
they come to a text, the marker is called once, with this text, and the reply is
what the whole comes to. If not, the whole comes to what they come to. -/
theorem marker_by_value {reg : Registry (Action σ)} {limits : Limits} {n t : Text} {st : σ}
    (hplain : IsPlain n) (hname : ∀ c ∈ n, c ≠ ':' ∧ c ∉ escapable) (ht : Brackets.Balanced t) (hlast : t.getLast? ≠ some '\\')
    (hinner : (expand reg limits t st).Unlimited)
    (houter : (expand reg limits (Marker.braced (n ++ ':' :: t)) st).Unlimited) :
    let inner := expand reg limits t st
    let outer := expand reg limits (Marker.braced (n ++ ':' :: t)) st
    (∀ x, inner.Gives x →
      let call : Call := ⟨n.trim, some x⟩
      let reply := OnePass.reply reg call inner.state
      outer.calls = inner.calls ++ [(call, inner.state)] ∧ outer.state = reply.2 ∧
        outer.answer = Marker.answer (n ++ ':' :: x) reply.1) ∧
      ((¬ ∃ x, inner.Gives x) → outer.calls = inner.calls ∧ outer.state = inner.state ∧
        outer.answer = inner.answer ∧ outer.records = inner.records) := by
  intro inner outer
  have hcolon : ':' ∉ n := fun h => (hname _ h).1 rfl
  have hin : inner = (course reg [] [] (hide t) st).whole.outcome := expand_of_unlimited hinner
  have hout : outer = _ := expand_of_unlimited houter
  rw [whole_marker reg (fun c hc => (hname c hc).2) ht hlast] at hout
  generalize (course reg [] [] (hide t) st).whole = run at hin hout
  rw [hin, hout]
  refine ⟨fun x hx => ?_, fun hx => ?_⟩
  · obtain ⟨halt, text, hending, rfl⟩ := Run.gives_outcome_iff.1 hx
    obtain ⟨hanswer, hstate, hcalls⟩ := outcome_close reg (n ++ ':' :: text).reverse run.state
    have hcontents : restore (n ++ ':' :: text) = n ++ ':' :: restore text := by
      rw [restore_append, restore_of_isPlain hplain, restore_cons_of_notMem (by decide)]
    rw [List.reverse_reverse, Call.ofContents_append hcolon] at hanswer hstate hcalls
    rw [hcontents] at hanswer
    rw [Run.andThen_of_reached (run.inside _ _) hending]
    refine ⟨?_, hstate, hanswer⟩
    rw [Run.calls_prepend, Run.calls_inside]
    exact congrArg _ hcalls
  · have hstopped (halt : Halt) (text : Text) : run.ending ≠ .reached halt text := fun hending =>
      hx ⟨restore text, Run.gives_outcome_iff.2 ⟨halt, text, hending, rfl⟩⟩
    rw [Run.andThen_of_stopped (run.inside _ _) hstopped]
    exact ⟨Run.calls_inside _ _ run, rfl, rfl, rfl⟩

/-- The parameters of `u` end in an answer with a backslash, or are stopped by `x`. -/
theorem marker_by_value_sample :
    let limits : Limits := ⟨Limit.count 9, Limit.count 99, Limit.count 99⟩
    let t := "\\\x7b\x7bq:\x7bn\x7d\x7d\x7bn\x7d".toList
    let t' := "\x7bn\x7d\x7bx\x7d".toList
    let outer := expand sample limits (Marker.braced ([' ', 'u'] ++ ':' :: t)) 0
    let outer' := expand sample limits (Marker.braced ([' ', 'u'] ++ ':' :: t')) 0
    (outer.state = 12 ∧ outer.answer = .ok "\\\x7b\x7bq:\x7d\\\x7d\x7d\\".toList) ∧
      outer'.state = 101 ∧ outer'.answer = .ok ['!'] := by
  intro limits t t' outer outer'
  have hname : ∀ c ∈ [' ', 'u'], c ≠ ':' ∧ c ∉ escapable := by simp [escapable]
  have hvalue := @marker_by_value Nat sample limits [' ', 'u'] t 0 (by decide) hname (by decide) (by decide)
    (by decide) (by decide)
  have hstop := @marker_by_value Nat sample limits [' ', 'u'] t' 0 (by decide) hname (by decide) (by decide)
    (by decide) (by decide)
  obtain ⟨-, hstate, hanswer⟩ := hvalue.1 _ ⟨rfl, rfl⟩
  obtain ⟨-, hstate', hanswer', -⟩ := hstop.2 (by rintro ⟨x, hx, -⟩; cases hx)
  exact ⟨⟨hstate.trans rfl, hanswer.trans rfl⟩, hstate'.trans rfl, hanswer'.trans rfl⟩

end Expansion

end TagExpander
