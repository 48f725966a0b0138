import TurnTaking.Proofs.SessionTrace

namespace TurnTaking

namespace HookCall

def judgedSpeaking (call : HookCall) : Bool :=
  call.hook = .interrupt || call.speaking

def event (session : String) (call : HookCall) : Event :=
  .ofDecision session call.transcript call.judgedSpeaking call.decision

end HookCall

namespace Outcome

def hook? : Outcome → Option Hook
  | ignored => none
  | filtered _ => some .filtered
  | interrupt _ => some .interrupt
  | userTurn _ => some .userTurn

end Outcome

namespace GateState

@[simp] lemma events_write (s : GateState) (ws : List FlagWrite) : (s.write ws).events = s.events := by
  induction ws generalizing s with
  | nil => rfl
  | cons w ws ih => rw [write_cons, ih, events_setSpeaking]

end GateState

namespace Gate

variable (g : Gate) (c : Consumer)

lemma steps_cons_passed {s : SessionState} {e : SessionEvent} (h : (g.step c s e).2 = none)
    (es : List SessionEvent) : g.steps c s (e :: es) = g.steps c (g.step c s e).1 es := by
  rw [steps_cons, h]
  rfl

lemma steps_cons_failed {s : SessionState} {e : SessionEvent} {failure : String}
    (h : (g.step c s e).2 = some failure) (es : List SessionEvent) :
    g.steps c s (e :: es) = g.step c s e := by
  rw [steps_cons, h]
  rfl

lemma steps_cons_eq_none_iff (s : SessionState) (e : SessionEvent) (es : List SessionEvent) :
    (g.steps c s (e :: es)).2 = none ↔
      (g.step c s e).2 = none ∧ (g.steps c (g.step c s e).1 es).2 = none := by
  cases hf : (g.step c s e).2 with
  | some failure => simp [steps_cons_failed g c hf, hf]
  | none => simp [steps_cons_passed g c hf]

lemma steps_append_passed {s : SessionState} {front : List SessionEvent}
    (h : (g.steps c s front).2 = none) (rest : List SessionEvent) :
    g.steps c s (front ++ rest) = g.steps c (g.steps c s front).1 rest := by
  induction front generalizing s with
  | nil => rfl
  | cons e front ih =>
    obtain ⟨hf, hr⟩ := (steps_cons_eq_none_iff g c s e front).mp h
    rw [List.cons_append, steps_cons_passed g c hf, steps_cons_passed g c hf]
    exact ih hr

lemma steps_append_failed {s : SessionState} {front : List SessionEvent} {failure : String}
    (h : (g.steps c s front).2 = some failure) (rest : List SessionEvent) :
    g.steps c s (front ++ rest) = g.steps c s front := by
  induction front generalizing s with
  | nil => cases h
  | cons e front ih =>
    rw [List.cons_append]
    cases hf : (g.step c s e).2 with
    | some failure' => rw [steps_cons_failed g c hf, steps_cons_failed g c hf]
    | none =>
      rw [steps_cons_passed g c hf] at h
      rw [steps_cons_passed g c hf, steps_cons_passed g c hf, ih h]

lemma steps_invariant {P : SessionState → Prop}
    (hstep : ∀ v : Visit, P v.before → P (g.step c v.before v.event).1)
    {s : SessionState} (hs : P s) (es : List SessionEvent) : P (g.steps c s es).1 := by
  induction es generalizing s with
  | nil => exact hs
  | cons e es ih =>
    have he : P (g.step c s e).1 := hstep ⟨s, e⟩ hs
    rw [steps_cons]
    split
    · exact he
    · exact ih he

lemma hook_callOf? (s : SessionState) (u : Utterance) :
    (g.callOf? ⟨s, .utterance u⟩).map HookCall.hook = (g.handle s.gate u).1.hook? := by
  cases ho : (g.handle s.gate u).1 <;> simp [callOf?, ho, Outcome.hook?]

lemma callOf?_partial {s : SessionState} {u : Utterance} (h : u.isFinal = false) :
    g.callOf? ⟨s, .utterance u⟩ = none := by
  simp [callOf?, handle_partial g s.gate h]

structure Answers (s : GateState) (u : Utterance) (call : HookCall) : Prop where
  isFinal : u.isFinal = true
  transcript : call.transcript = u.text
  decision : call.decision = (g.judge s u.text).decision
  judgedSpeaking : call.judgedSpeaking = s.speaking
  cleared : call.hook = .interrupt → s.speaking = true ∧ call.speaking = false
  filters : call.decision.action = .filter ↔ call.hook = .filtered

lemma callOf?_final {s : SessionState} {u : Utterance} (h : u.isFinal = true) :
    ∃ call, g.callOf? ⟨s, .utterance u⟩ = some call ∧ g.Answers s.gate u call := by
  have ho := g.handle_final s.gate h
  generalize hd : (g.judge s.gate u.text).decision = d at ho
  rw [Outcome.ofDecision] at ho
  by_cases hf : d.isFiltered = true
  · have ha : d.action = .filter := by simpa [Decision.isFiltered] using hf
    rw [if_pos hf] at ho
    refine ⟨⟨.filtered, u.text, d, s.gate.speaking⟩, by simp [callOf?, ho], ?_⟩
    exact ⟨h, rfl, hd.symm, by simp [HookCall.judgedSpeaking], by simp, by simp [ha]⟩
  · have ha : d.action ≠ .filter := by simpa [Decision.isFiltered] using hf
    rw [if_neg hf] at ho
    cases hs : s.gate.speaking with
    | true =>
      rw [hs, if_pos rfl] at ho
      refine ⟨⟨.interrupt, u.text, d, false⟩, by simp [callOf?, ho], ?_⟩
      exact ⟨h, rfl, hd.symm, by simp [HookCall.judgedSpeaking, hs], by simp [hs], by simp [ha]⟩
    | false =>
      rw [hs, if_neg (by simp)] at ho
      refine ⟨⟨.userTurn, u.text, d, false⟩, by simp [callOf?, ho, hs], ?_⟩
      exact ⟨h, rfl, hd.symm, by simp [HookCall.judgedSpeaking, hs], by simp, by simp [ha]⟩

lemma answers_of_callOf? {v : Visit} {call : HookCall} (h : g.callOf? v = some call) :
    ∃ u, v.event = .utterance u ∧ g.Answers v.before.gate u call := by
  obtain ⟨s, e⟩ := v
  cases e with
  | speechStarted | speechEnded => cases h
  | utterance u =>
    cases hf : u.isFinal with
    | false =>
      rw [callOf?_partial g hf] at h
      cases h
    | true =>
      obtain ⟨call', hc, ha⟩ := callOf?_final g (s := s) hf
      rw [hc] at h
      obtain rfl := Option.some.inj h
      exact ⟨u, rfl, ha⟩

end Gate

end TurnTaking
