import TurnTaking.Proofs.Accounting

/-! What a failing session leaves is what it would leave if its first failing hook succeeded and no
event came after it. -/

namespace TurnTaking

namespace Consumer

variable (c : Consumer)

def Completes (calls : List HookCall) : Prop :=
  ∀ past call later, calls = past ++ call :: later → (c.react past call).failure = none

lemma completes_nil : c.Completes [] := by
  intro past call later h
  simp at h

lemma completes_snoc (calls : List HookCall) (call : HookCall) :
    c.Completes (calls ++ [call]) ↔ c.Completes calls ∧ (c.react calls call).failure = none := by
  constructor
  · intro h
    refine ⟨?_, h calls call [] rfl⟩
    intro past earlier later hc
    apply h past earlier (later ++ [call])
    rw [hc, List.append_assoc, List.cons_append]
  · rintro ⟨h, hlast⟩ past earlier later hc
    rcases List.eq_nil_or_concat later with rfl | ⟨later, last, rfl⟩
    · obtain ⟨rfl, he⟩ := List.append_inj' hc rfl
      obtain rfl := List.singleton_inj.mp he
      exact hlast
    · have hc' : calls ++ [call] = (past ++ earlier :: later) ++ [last] := by simpa using hc
      exact h past earlier later (List.append_inj' hc' rfl).1

def sparing (n : Nat) : Consumer :=
  { c with
    react := fun past call =>
      { c.react past call with
        failure := if past.length = n then none else (c.react past call).failure } }

@[simp] lemma hears_sparing (n : Nat) (hook : Hook) : (c.sparing n).hears hook = c.hears hook := rfl

@[simp] lemma failure_sparing (n : Nat) (past : List HookCall) (call : HookCall) :
    ((c.sparing n).react past call).failure =
      if past.length = n then none else (c.react past call).failure := rfl

end Consumer

namespace LogEntry

def closes : LogEntry → Bool
  | sessionClosed .. => true
  | _ => false

lemma closes_of_isVerdict {entry : LogEntry} (h : entry.isVerdict = true) :
    entry.closes = false := by
  cases entry with
  | sessionClosed => cases h
  | _ => rfl

end LogEntry

namespace GateState

def IsOpen (s : GateState) : Prop := ∀ entry ∈ s.log, entry.closes = false

lemma IsOpen.setSpeaking {s : GateState} (h : s.IsOpen) (b : Bool) : (s.setSpeaking b).IsOpen := by
  intro entry he
  rw [log_setSpeaking] at he
  rcases List.mem_append.mp he with ho | hn
  · exact h entry ho
  · split at hn
    · simp at hn
    · obtain rfl := List.mem_singleton.mp hn
      rfl

lemma IsOpen.write {s : GateState} (h : s.IsOpen) (ws : List FlagWrite) : (s.write ws).IsOpen := by
  induction ws generalizing s with
  | nil => exact h
  | cons w ws ih => exact ih (h.setSpeaking w.value)

lemma IsOpen.handle {s : GateState} (h : s.IsOpen) (g : Gate) (u : Utterance) :
    (g.handle s u).2.IsOpen := by
  obtain ⟨added, hl, hv⟩ := g.log_handle s u
  intro entry he
  rw [hl] at he
  rcases List.mem_append.mp he with ho | hn
  · exact h entry ho
  · exact LogEntry.closes_of_isVerdict (hv entry hn)

end GateState

namespace FlagWrite

lemma last_hooks (flag : Bool) (bs : List Bool) :
    last flag (bs.map fun b => ⟨.hook, b⟩) = bs.getLast?.getD flag := by
  induction bs generalizing flag with
  | nil => rfl
  | cons b bs ih =>
    rw [List.map_cons, List.getLast?_cons]
    exact ih b

end FlagWrite

namespace Gate

variable (g : Gate) (c : Consumer)

lemma isOpen_step {v : Visit} (h : v.before.gate.IsOpen) :
    (g.step c v.before v.event).1.gate.IsOpen := by
  rw [gate_step]
  apply GateState.IsOpen.write
  obtain ⟨s, e⟩ := v
  cases e with
  | speechStarted | speechEnded => exact h
  | utterance u => exact h.handle g u

lemma isOpen_steps (speaking : Bool) (es : List SessionEvent) :
    (g.steps c (.fresh speaking) es).1.gate.IsOpen := by
  have hfresh : (SessionState.fresh speaking).gate.IsOpen := by simp [GateState.IsOpen]
  exact g.steps_invariant c (P := fun s => s.gate.IsOpen) (fun _ hv => isOpen_step g c hv) hfresh es

lemma failureOf?_sparing (n : Nat) (v : Visit) :
    g.failureOf? (c.sparing n) v =
      if v.before.calls.length = n then none else g.failureOf? c v := by
  simp only [failureOf?]
  cases g.callOf? v with
  | none => exact (ite_self none).symm
  | some call =>
    by_cases hn : v.before.calls.length = n
    · simp [hn]
    · simp [hn]

lemma step_sparing (n : Nat) (s : SessionState) (e : SessionEvent) :
    g.step (c.sparing n) s e =
      ((g.step c s e).1, if s.calls.length = n then none else (g.step c s e).2) := by
  rw [step_eq g (c.sparing n) ⟨s, e⟩, step_eq g c ⟨s, e⟩, failureOf?_sparing]
  rfl

lemma steps_sparing (n : Nat) {s : SessionState} {es : List SessionEvent}
    (h : (g.steps c s es).2 = none) : g.steps (c.sparing n) s es = g.steps c s es := by
  induction es generalizing s with
  | nil => rfl
  | cons e es ih =>
    obtain ⟨hf, hr⟩ := (steps_cons_eq_none_iff g c s e es).mp h
    have hspared : g.step (c.sparing n) s e = g.step c s e := by
      rw [step_sparing, hf, ite_self, ← hf]
    have hf' : (g.step (c.sparing n) s e).2 = none := by rw [hspared, hf]
    rw [steps_cons_passed g _ hf', steps_cons_passed g c hf, hspared]
    exact ih hr

lemma completes_step {v : Visit} (h : c.Completes v.before.calls) :
    c.Completes (g.step c v.before v.event).1.calls ↔ (g.step c v.before v.event).2 = none := by
  rw [calls_step, failure_step, heardOf, failureOf?]
  cases g.callOf? v with
  | none => simpa using h
  | some call =>
    cases hh : c.hears call.hook with
    | false => simpa [hh] using h
    | true => simp [hh, Consumer.completes_snoc, h]

lemma completes_steps {s : SessionState} (h : c.Completes s.calls) (es : List SessionEvent) :
    c.Completes (g.steps c s es).1.calls ↔ (g.steps c s es).2 = none := by
  induction es generalizing s with
  | nil => simpa [steps] using h
  | cons e es ih =>
    have he := completes_step g c (v := ⟨s, e⟩) h
    cases hf : (g.step c s e).2 with
    | some failure =>
      rw [steps_cons_failed g c hf]
      exact he
    | none =>
      rw [steps_cons_passed g c hf]
      exact ih (he.mpr hf)

lemma steps_failed_at {s : SessionState} {front : List SessionEvent} {e : SessionEvent}
    {failure : String} (hfront : (g.steps c s front).2 = none)
    (hfail : g.failureOf? c ⟨(g.steps c s front).1, e⟩ = some failure) (rest : List SessionEvent) :
    g.steps c s (front ++ e :: rest) = ((g.step c (g.steps c s front).1 e).1, some failure) := by
  have hf : (g.step c (g.steps c s front).1 e).2 = some failure := by
    rw [g.failure_step c ⟨_, e⟩, hfail]
  rw [steps_append_passed g c hfront, steps_cons_failed g c hf, ← hf]

lemma steps_eq_some_iff (s : SessionState) (es : List SessionEvent) (failure : String) :
    (g.steps c s es).2 = some failure ↔
      ∃ front e rest, es = front ++ e :: rest ∧ (g.steps c s front).2 = none ∧
        g.failureOf? c ⟨(g.steps c s front).1, e⟩ = some failure := by
  constructor
  · intro h
    induction es generalizing s with
    | nil => cases h
    | cons e es ih =>
      cases hf : (g.step c s e).2 with
      | some failure' =>
        rw [steps_cons_failed g c hf] at h
        refine ⟨[], e, es, rfl, rfl, ?_⟩
        rw [← failure_step]
        exact h
      | none =>
        rw [steps_cons_passed g c hf] at h
        obtain ⟨front, e', rest, rfl, hfront, hfail⟩ := ih _ h
        refine ⟨e :: front, e', rest, rfl, ?_, ?_⟩
        · rw [steps_cons_passed g c hf]
          exact hfront
        · rw [steps_cons_passed g c hf]
          exact hfail
  · rintro ⟨front, e, rest, rfl, hfront, hfail⟩
    rw [steps_failed_at g c hfront hfail]

lemma last_writesOf {v : Visit} {call : HookCall} (hcall : g.callOf? v = some call)
    (hheard : c.hears call.hook = true) :
    FlagWrite.last v.before.gate.speaking (g.writesOf c v) =
      (c.react v.before.calls call).writes.getLast?.getD call.speaking := by
  obtain ⟨u, hu, ha⟩ := g.answers_of_callOf? hcall
  have hw : g.writesOf c v =
      (if call.hook = .interrupt then [⟨.interrupt, false⟩] else []) ++
        (c.react v.before.calls call).writes.map fun b => ⟨.hook, b⟩ := by
    simp only [writesOf, hu, hcall, hookWrites, hheard, if_true]
  rw [hw, FlagWrite.last_append, FlagWrite.last_hooks]
  congr 1
  by_cases hi : call.hook = .interrupt
  · rw [if_pos hi, (ha.cleared hi).2]
    rfl
  · have hj := ha.judgedSpeaking
    rw [HookCall.judgedSpeaking, decide_eq_false hi, Bool.false_or] at hj
    rw [if_neg hi, hj]
    rfl

/-- In a session over these events, the hook for `e` is the first to fail. -/
structure FailsAt (speaking : Bool) (front : List SessionEvent) (e : SessionEvent)
    (call : HookCall) (failure : String) : Prop where
  earlier : c.Completes (g.run c speaking front).2.calls
  called : g.callOf? ⟨(g.steps c (.fresh speaking) front).1, e⟩ = some call
  heard : c.hears call.hook = true
  fails : (c.react (g.run c speaking front).2.calls call).failure = some failure

lemma completes_run_iff (speaking : Bool) (es : List SessionEvent) :
    c.Completes (g.run c speaking es).2.calls ↔ (g.steps c (.fresh speaking) es).2 = none := by
  rw [(g.run_keeps c speaking es).1]
  exact completes_steps g c c.completes_nil es

lemma failsAt_iff (speaking : Bool) (front : List SessionEvent) (e : SessionEvent)
    (failure : String) :
    (∃ call, g.FailsAt c speaking front e call failure) ↔
      (g.steps c (.fresh speaking) front).2 = none ∧
        g.failureOf? c ⟨(g.steps c (.fresh speaking) front).1, e⟩ = some failure := by
  have hcalls := (g.run_keeps c speaking front).1
  constructor
  · rintro ⟨call, h⟩
    refine ⟨(completes_run_iff g c speaking front).mp h.earlier, ?_⟩
    have hfails := h.fails
    rw [hcalls] at hfails
    simp [failureOf?, h.called, h.heard, hfails]
  · rintro ⟨hfront, hfail⟩
    obtain ⟨call, hcalled, hf⟩ := Option.bind_eq_some_iff.mp hfail
    split at hf
    · rename_i hheard
      refine ⟨call, (completes_run_iff g c speaking front).mpr hfront, hcalled, hheard, ?_⟩
      rw [hcalls]
      exact hf
    · cases hf

section

variable {g c} {speaking : Bool} {front : List SessionEvent} {e : SessionEvent} {call : HookCall}
  {failure : String} (h : g.FailsAt c speaking front e call failure)

include h

lemma run_of_failsAt (later : List SessionEvent) :
    g.run c speaking (front ++ e :: later) =
      (.error failure, (g.step c (g.steps c (.fresh speaking) front).1 e).1) := by
  obtain ⟨hfront, hfail⟩ := (failsAt_iff g c speaking front e failure).mp ⟨call, h⟩
  have hs := steps_failed_at g c hfront hfail later
  rw [run_of_failed g c (by rw [hs]), hs]

lemma run_spared :
    let t := (g.step c (g.steps c (.fresh speaking) front).1 e).1
    g.run (c.sparing (g.run c speaking front).2.calls.length) speaking (front ++ [e]) =
      (.ok t.summary, t.closed g) := by
  intro t
  obtain ⟨hfront, -⟩ := (failsAt_iff g c speaking front e failure).mp ⟨call, h⟩
  have hcalls := (g.run_keeps c speaking front).1
  generalize hn : (g.run c speaking front).2.calls.length = n
  have hlength : (g.steps c (.fresh speaking) front).1.calls.length = n := by rw [← hn, hcalls]
  have hsame := steps_sparing g c n hfront
  have hstep : g.step (c.sparing n) (g.steps c (.fresh speaking) front).1 e = (t, none) := by
    rw [step_sparing, if_pos hlength]
  have hs : g.steps (c.sparing n) (.fresh speaking) (front ++ [e]) = (t, none) := by
    rw [steps_append_passed g _ (by rw [hsame, hfront]), hsame,
      steps_cons_passed g _ (by rw [hstep]), hstep]
    rfl
  rw [run_of_completed g _ (by rw [hs]), hs]

end

end Gate

end TurnTaking
