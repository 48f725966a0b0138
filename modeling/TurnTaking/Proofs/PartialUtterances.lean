import TurnTaking.Proofs.Accounting

/-!
Two states are alike if they differ at most in the count of ignored utterances; a step keeps them
alike.
-/

namespace TurnTaking

namespace SessionEvent

def withoutPartials (es : List SessionEvent) : List SessionEvent :=
  es.filter fun e => !e.isPartial

lemma countP_withoutPartials (es : List SessionEvent) :
    (withoutPartials es).countP isPartial = 0 := by
  rw [List.countP_eq_zero]
  intro e he
  have hp := (List.mem_filter.mp he).2
  simpa using hp

end SessionEvent

structure SessionState.Alike (s t : SessionState) : Prop where
  gate : s.gate = t.gate
  calls : s.calls = t.calls
  countOf : ∀ hook, s.summary.countOf hook = t.summary.countOf hook

namespace SessionState.Alike

variable {s t : SessionState}

lemma refl (s : SessionState) : s.Alike s := ⟨rfl, rfl, fun _ => rfl⟩

lemma trans {r : SessionState} (h : s.Alike t) (h' : t.Alike r) : s.Alike r :=
  ⟨h.gate.trans h'.gate, h.calls.trans h'.calls, fun hook => (h.countOf hook).trans (h'.countOf hook)⟩

lemma summary_eq (h : s.Alike t) :
    s.summary = { t.summary with ignored := s.summary.ignored } := by
  have hf : s.summary.filtered = t.summary.filtered := h.countOf .filtered
  have hi : s.summary.interrupts = t.summary.interrupts := h.countOf .interrupt
  have hu : s.summary.userTurns = t.summary.userTurns := h.countOf .userTurn
  simp only [← hf, ← hi, ← hu]

lemma closed (g : Gate) (h : s.Alike t) : (s.closed g).Alike (t.closed g) := by
  refine ⟨?_, h.calls, h.countOf⟩
  have hc : g.closing s.summary = g.closing t.summary := by
    rw [h.summary_eq]
    rfl
  rw [SessionState.closed, SessionState.closed, h.gate, hc]

end SessionState.Alike

namespace Gate

variable (g : Gate) (c : Consumer)

lemma step_alike {s t : SessionState} (h : s.Alike t) (e : SessionEvent) :
    (g.step c s e).1.Alike (g.step c t e).1 ∧ (g.step c s e).2 = (g.step c t e).2 := by
  obtain ⟨gate, m, calls⟩ := s
  obtain ⟨gate', m', calls'⟩ := t
  obtain ⟨rfl, rfl, hm⟩ := h
  have hcall : g.callOf? ⟨⟨gate, m, calls⟩, e⟩ = g.callOf? ⟨⟨gate, m', calls⟩, e⟩ := rfl
  refine ⟨⟨?_, ?_, ?_⟩, ?_⟩
  · rw [gate_step g c ⟨_, e⟩, gate_step g c ⟨_, e⟩]
    rfl
  · rw [calls_step g c ⟨_, e⟩, calls_step g c ⟨_, e⟩]
    rfl
  · intro hook
    rw [countOf_step g c hook ⟨_, e⟩, countOf_step g c hook ⟨_, e⟩, hcall]
    exact congrArg (· + _) (hm hook)
  · rw [failure_step g c ⟨_, e⟩, failure_step g c ⟨_, e⟩]
    rfl

lemma step_partial (s : SessionState) {e : SessionEvent} (h : e.isPartial = true) :
    (g.step c s e).1.Alike s ∧ (g.step c s e).2 = none := by
  cases e with
  | speechStarted | speechEnded => cases h
  | utterance u =>
    have hu : u.isFinal = false := by simpa [SessionEvent.isPartial] using h
    have hcall := callOf?_partial g (s := s) hu
    refine ⟨⟨?_, ?_, ?_⟩, ?_⟩
    · simp [gate_step g c ⟨s, _⟩, handled, handle_partial g s.gate hu, writesOf, hcall]
    · simp [calls_step g c ⟨s, _⟩, heardOf, hcall]
    · intro hook
      simp [countOf_step g c hook ⟨s, _⟩, hcall]
    · simp [failure_step g c ⟨s, _⟩, failureOf?, hcall]

lemma steps_without_partials {s t : SessionState} (h : s.Alike t) (es : List SessionEvent) :
    (g.steps c s es).1.Alike (g.steps c t (SessionEvent.withoutPartials es)).1 ∧
      (g.steps c s es).2 = (g.steps c t (SessionEvent.withoutPartials es)).2 := by
  induction es generalizing s t with
  | nil => exact ⟨h, rfl⟩
  | cons e es ih =>
    rw [steps_cons, SessionEvent.withoutPartials]
    cases he : e.isPartial with
    | true =>
      obtain ⟨ha, hf⟩ := g.step_partial c s he
      rw [hf, if_neg (by simp), List.filter_cons_of_neg (by simp [he])]
      exact ih (ha.trans h)
    | false =>
      obtain ⟨ha, hf⟩ := g.step_alike c h e
      rw [List.filter_cons_of_pos (by simp [he]), steps_cons, ← hf]
      cases (g.step c s e).2.isSome with
      | true => exact ⟨ha, hf⟩
      | false => exact ih ha

theorem run_without_partials (g : Gate) (c : Consumer) (speaking : Bool)
    (es : List SessionEvent) :
    let whole := g.run c speaking es
    let finals := g.run c speaking (SessionEvent.withoutPartials es)
    finals.2.calls = whole.2.calls ∧ finals.2.gate = whole.2.gate ∧
    whole.1 = finals.1.map (fun m => { m with ignored := es.countP SessionEvent.isPartial }) ∧
    ∀ m, finals.1 = .ok m → m.ignored = 0 := by
  intro whole finals
  obtain ⟨ha, hf⟩ := g.steps_without_partials c (.refl (.fresh speaking)) es
  have hignored : ∀ m, finals.1 = .ok m → m.ignored = 0 := by
    intro m hm
    rw [ignored_run hm, SessionEvent.countP_withoutPartials]
  cases hs : (g.steps c (.fresh speaking) es).2 with
  | some failure =>
    have hw : whole = _ := run_of_failed g c hs
    have hfin : finals = _ := run_of_failed g c (hf.symm.trans hs)
    refine ⟨?_, ?_, ?_, hignored⟩
    · rw [hw, hfin]
      exact ha.calls.symm
    · rw [hw, hfin]
      exact ha.gate.symm
    · rw [hw, hfin]
      rfl
  | none =>
    have hw : whole = _ := run_of_completed g c hs
    have hfin : finals = _ := run_of_completed g c (hf.symm.trans hs)
    have hcount := ignored_run ((run_ok_iff g c speaking es _).mpr ⟨hs, rfl⟩)
    have hc := ha.closed g
    refine ⟨?_, ?_, ?_, hignored⟩
    · rw [hw, hfin]
      exact hc.calls.symm
    · rw [hw, hfin]
      exact hc.gate.symm
    · rw [hw, hfin, ← hcount]
      exact congrArg Except.ok ha.summary_eq

theorem run_without_partials_cycle :
    let policy : Policy := .cycle [.constant (.verdict false), .constant (.verdict true)]
    let g : Gate := ⟨"s", .ofValidated { policy := some policy }, .memory⟩
    let c : Consumer := ⟨fun past _ => ⟨[past.isEmpty], none⟩, true⟩
    let es : List SessionEvent := [.utterance ⟨"so", false⟩, .utterance ⟨"so what", true⟩,
      .utterance ⟨"and", false⟩, .utterance ⟨"and then", true⟩, .utterance ⟨"stop", true⟩]
    ∃ m, (g.run c false (SessionEvent.withoutPartials es)).1 = .ok m ∧ m.ignored = 0 ∧
      (g.run c false es).1 = .ok { m with ignored := 2 } ∧
      (g.run c false es).2.gate.events.map (fun e => (e.agentSpeaking, e.action)) =
        [(false, .allow), (true, .filter), (false, .allow)] := by
  intro policy g c es
  obtain ⟨-, hgate, hsummary, hignored⟩ := run_without_partials g c false es
  have h : (g.run c false (SessionEvent.withoutPartials es)).1 = .ok ⟨0, 1, 0, 2⟩ := by
    simp only [g, c, es, policy]
    decide +kernel
  refine ⟨_, h, hignored _ h, ?_, ?_⟩
  · rw [hsummary, h]
    rfl
  · rw [← hgate]
    simp only [g, c, es, policy]
    decide +kernel

end Gate

end TurnTaking
