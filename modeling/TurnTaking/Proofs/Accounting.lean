import Mathlib.Data.List.Basic
import TurnTaking.Proofs.SessionSteps

namespace TurnTaking

namespace SessionEvent

def isUtterance : SessionEvent → Bool
  | speechStarted | speechEnded => false
  | utterance _ => true

def isPartial : SessionEvent → Bool
  | speechStarted | speechEnded => false
  | utterance u => !u.isFinal

end SessionEvent

namespace Summary

def total (m : Summary) : Nat := m.ignored + m.filtered + m.interrupts + m.userTurns

def countOf (m : Summary) : Hook → Nat
  | .filtered => m.filtered
  | .interrupt => m.interrupts
  | .userTurn => m.userTurns

lemma total_count (m : Summary) (o : Outcome) : (m.count o).total = m.total + 1 := by
  cases o <;> simp only [count, total] <;> omega

lemma ignored_count (m : Summary) (o : Outcome) :
    (m.count o).ignored = m.ignored + if o.hook? = none then 1 else 0 := by
  cases o <;> simp [count, Outcome.hook?]

lemma countOf_count (m : Summary) (o : Outcome) (hook : Hook) :
    (m.count o).countOf hook = m.countOf hook + if o.hook? = some hook then 1 else 0 := by
  cases o <;> cases hook <;> simp [count, countOf, Outcome.hook?]

end Summary

namespace Gate

variable (g : Gate) (c : Consumer)

lemma steps_count (count : SessionState → Nat) (p : Visit → Bool)
    (hstep : ∀ v : Visit, count (g.step c v.before v.event).1 =
      count v.before + if p v then 1 else 0)
    (s : SessionState) (es : List SessionEvent) :
    count (g.steps c s es).1 = count s + (g.visits c s es).countP p := by
  induction es generalizing s with
  | nil => rfl
  | cons e es ih =>
    have he : count (g.step c s e).1 = count s + if p ⟨s, e⟩ then 1 else 0 := hstep ⟨s, e⟩
    rw [steps_cons, visits, List.countP_cons]
    cases (g.step c s e).2.isSome with
    | true => simpa using he
    | false =>
      rw [if_neg (by simp), if_neg (by simp), ih, he]
      omega

lemma total_step (v : Visit) :
    (g.step c v.before v.event).1.summary.total =
      v.before.summary.total + if v.event.isUtterance then 1 else 0 := by
  rw [summary_step]
  obtain ⟨s, e⟩ := v
  cases e with
  | speechStarted | speechEnded => rfl
  | utterance u => exact Summary.total_count s.summary _

lemma hook?_handle_eq_none (s : GateState) (u : Utterance) :
    (g.handle s u).1.hook? = none ↔ u.isFinal = false := by
  cases hf : u.isFinal with
  | false => simp [handle_partial g s hf, Outcome.hook?]
  | true =>
    rw [g.handle_final s hf, Outcome.ofDecision]
    split
    · simp [Outcome.hook?]
    · split <;> simp [Outcome.hook?]

lemma ignored_step (v : Visit) :
    (g.step c v.before v.event).1.summary.ignored =
      v.before.summary.ignored + if v.event.isPartial then 1 else 0 := by
  rw [summary_step]
  obtain ⟨s, e⟩ := v
  cases e with
  | speechStarted | speechEnded => rfl
  | utterance u =>
    simp only [counted, Summary.ignored_count, hook?_handle_eq_none, SessionEvent.isPartial,
      Bool.not_eq_true']

lemma countOf_step (hook : Hook) (v : Visit) :
    (g.step c v.before v.event).1.summary.countOf hook =
      v.before.summary.countOf hook +
        if (g.callOf? v).any (fun call => call.hook = hook) then 1 else 0 := by
  rw [summary_step]
  obtain ⟨s, e⟩ := v
  cases e with
  | speechStarted | speechEnded => rfl
  | utterance u =>
    simp only [counted, Summary.countOf_count, ← hook_callOf?]
    cases g.callOf? ⟨s, .utterance u⟩ <;> simp

def keptOf (v : Visit) : List Event :=
  (g.callOf? v).toList.flatMap fun call => g.kept (call.event g.session)

lemma events_handled (v : Visit) :
    (g.handled v).events = v.before.gate.events ++ g.keptOf v := by
  obtain ⟨s, e⟩ := v
  cases e with
  | speechStarted | speechEnded => simp [handled, keptOf, callOf?]
  | utterance u =>
    cases hf : u.isFinal with
    | false => simp [handled, keptOf, callOf?_partial g hf, handle_partial g s.gate hf]
    | true =>
      obtain ⟨call, hc, ha⟩ := callOf?_final g (s := s) hf
      simp [handled, keptOf, hc, events_handle_final g s.gate hf, HookCall.event, ha.transcript,
        ha.decision, ha.judgedSpeaking]

lemma events_step (v : Visit) :
    (g.step c v.before v.event).1.gate.events = v.before.gate.events ++ g.keptOf v := by
  rw [gate_step, GateState.events_write, events_handled]

lemma countP_visits {s : SessionState} {es : List SessionEvent} (p : SessionEvent → Bool)
    (h : (g.steps c s es).2 = none) :
    (g.visits c s es).countP (fun v => p v.event) = es.countP p := by
  calc
    (g.visits c s es).countP (fun v => p v.event)
      = ((g.visits c s es).map Visit.event).countP p := by
        rw [List.countP_map]
        rfl
    _ = es.countP p := by rw [g.visits_complete c h]

lemma heardOf_full (hfull : c.hearsFiltered = true) (v : Visit) :
    g.heardOf c v = (g.callOf? v).toList := by
  have hh (hook : Hook) : c.hears hook = true := by
    cases hook with
    | filtered => exact hfull
    | interrupt | userTurn => rfl
  simp [heardOf, hh]

lemma calls_run_full (hfull : c.hearsFiltered = true) (speaking : Bool) (es : List SessionEvent) :
    (g.run c speaking es).2.calls = (g.visits c (.fresh speaking) es).filterMap g.callOf? := by
  rw [calls_run, List.filterMap_eq_flatMap_toList]
  apply List.flatMap_congr
  intro v _
  exact heardOf_full g c hfull v

lemma events_run (speaking : Bool) (es : List SessionEvent) :
    (g.run c speaking es).2.gate.events =
      (g.visits c (.fresh speaking) es).flatMap g.keptOf := by
  have hs := g.steps_gain c (fun s => s.gate.events) g.keptOf (g.events_step c) (.fresh speaking) es
  cases hf : (g.steps c (.fresh speaking) es).2 with
  | none =>
    rw [run_of_completed g c hf, SessionState.events_closed, hs]
    rfl
  | some failure =>
    rw [run_of_failed g c hf, hs]
    rfl

section

variable {g c} {speaking : Bool} {es : List SessionEvent} {m : Summary}
  (h : (g.run c speaking es).1 = .ok m)

include h

lemma total_run : m.total = es.countP SessionEvent.isUtterance := by
  obtain ⟨hc, rfl⟩ := (run_ok_iff g c speaking es m).mp h
  have ht := g.steps_count c (fun s => s.summary.total) (fun v => v.event.isUtterance)
    (g.total_step c) (.fresh speaking) es
  rw [ht, countP_visits g c _ hc]
  exact Nat.zero_add _

lemma ignored_run : m.ignored = es.countP SessionEvent.isPartial := by
  obtain ⟨hc, rfl⟩ := (run_ok_iff g c speaking es m).mp h
  have hi := g.steps_count c (fun s => s.summary.ignored) (fun v => v.event.isPartial)
    (g.ignored_step c) (.fresh speaking) es
  rw [hi, countP_visits g c _ hc]
  exact Nat.zero_add _

lemma countOf_run (hook : Hook) :
    m.countOf hook =
      ((g.visits c (.fresh speaking) es).filterMap g.callOf?).countP fun call => call.hook = hook := by
  obtain ⟨-, rfl⟩ := (run_ok_iff g c speaking es m).mp h
  have hk := g.steps_count c (fun s => s.summary.countOf hook)
    (fun v => (g.callOf? v).any fun call => call.hook = hook) (g.countOf_step c hook)
    (.fresh speaking) es
  have hz : (SessionState.fresh speaking).summary.countOf hook = 0 := by cases hook <;> rfl
  rw [hk, hz, Nat.zero_add, List.countP_filterMap]
  congr 1
  funext v
  cases g.callOf? v <;> rfl

end

lemma flatMap_keptOf (hsink : g.sink = .memory) (visits : List Visit) :
    visits.flatMap g.keptOf =
      if g.filter.config.emitEvents then
        (visits.filterMap g.callOf?).map (HookCall.event g.session)
      else [] := by
  rw [← g.flatMap_kept hsink, List.filterMap_eq_flatMap_toList, List.flatMap_map,
    List.flatMap_assoc]
  rfl

lemma map_event_filterMap (visits : List Visit) :
    (visits.filterMap g.callOf?).map (HookCall.event g.session) =
      visits.filterMap fun v => (g.callOf? v).map fun call =>
        { session := g.session
          transcript := call.transcript
          agentSpeaking := v.before.gate.speaking
          action := call.decision.action
          reason := call.decision.reason
          confidence := call.decision.confidence
          rule := (call.decision.metadata.get? "rule").bind Json.asText? } := by
  rw [List.map_filterMap]
  apply List.filterMap_congr
  intro v _
  apply Option.map_congr
  intro call hcall
  obtain ⟨u, -, ha⟩ := g.answers_of_callOf? hcall
  rw [← ha.judgedSpeaking]
  rfl

theorem run_accounts (g : Gate) (c : Consumer) (speaking : Bool) (es : List SessionEvent)
    (m : Summary) (hfull : c.hearsFiltered = true) (h : (g.run c speaking es).1 = .ok m) :
    let run := g.run c speaking es
    let visits := g.visits c (.fresh speaking) es
    m.ignored + m.filtered + m.interrupts + m.userTurns = es.countP SessionEvent.isUtterance ∧
    m.ignored = es.countP SessionEvent.isPartial ∧
    m.filtered = run.2.calls.countP (fun call => call.hook = .filtered) ∧
    m.interrupts = run.2.calls.countP (fun call => call.hook = .interrupt) ∧
    m.userTurns = run.2.calls.countP (fun call => call.hook = .userTurn) ∧
    visits.map Visit.event = es ∧
    run.2.calls = visits.filterMap g.callOf? ∧
    (g.sink = .memory → run.2.gate.events =
      if g.filter.config.emitEvents then
        visits.filterMap fun v => (g.callOf? v).map fun call =>
          { session := g.session
            transcript := call.transcript
            agentSpeaking := v.before.gate.speaking
            action := call.decision.action
            reason := call.decision.reason
            confidence := call.decision.confidence
            rule := (call.decision.metadata.get? "rule").bind Json.asText? }
      else []) ∧
    ∀ v ∈ visits, ∀ call, g.callOf? v = some call →
      ∃ u, v.event = .utterance u ∧ g.Answers v.before.gate u call := by
  intro run visits
  have hcalls : run.2.calls = visits.filterMap g.callOf? := g.calls_run_full c hfull speaking es
  refine ⟨total_run h, ignored_run h, ?_, ?_, ?_, g.visits_run c h, hcalls, ?_, ?_⟩
  · rw [hcalls]
    exact countOf_run h .filtered
  · rw [hcalls]
    exact countOf_run h .interrupt
  · rw [hcalls]
    exact countOf_run h .userTurn
  · intro hsink
    rw [← map_event_filterMap, ← flatMap_keptOf g hsink]
    exact g.events_run c speaking es
  · intro v _ call hc
    exact g.answers_of_callOf? hc

theorem run_accounts_policy :
    let policy : Policy := .cycle [.containing "hm", .constant (.error (.failed "off"))]
    let g : Gate := ⟨"s", .ofValidated { ignoreList := ⟨["yeah"]⟩, policy := some policy }, .memory⟩
    let c : Consumer := ⟨fun _ call => ⟨[call.hook = .userTurn], none⟩, true⟩
    let es : List SessionEvent := [.utterance ⟨"hm?", true⟩, .utterance ⟨"yes", true⟩,
      .utterance ⟨"stop", false⟩, .utterance ⟨"stop", true⟩]
    c.hearsFiltered = true ∧ (g.run c false es).1 = .ok ⟨1, 1, 1, 1⟩ ∧
      (g.run c false es).2.gate.events =
        [⟨"s", "hm?", false, .filter, "Custom filter decision", .one, some "custom_policy"⟩,
          ⟨"s", "yes", false, .allow, "Agent not speaking, processing as user input", .one,
            some "agent_not_speaking"⟩,
          ⟨"s", "stop", true, .allow, "Custom filter decision", .one, some "custom_policy"⟩] := by
  intro policy g c es
  have hfull : c.hearsFiltered = true := rfl
  have h : (g.run c false es).1 = .ok ⟨1, 1, 1, 1⟩ := by
    simp only [policy, g, c, es]
    decide +kernel
  refine ⟨hfull, h, ?_⟩
  obtain ⟨-, -, -, -, -, -, -, hevents, -⟩ := run_accounts g c false es _ hfull h
  rw [hevents rfl]
  decide +kernel

end Gate

end TurnTaking
