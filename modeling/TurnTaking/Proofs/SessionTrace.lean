import Mathlib.Tactic.Common
import TurnTaking.Agent.Session

/-!
The events that a session takes, each with the state in which it is taken. What a step does is said
once (`step_eq`).
-/

namespace TurnTaking

abbrev SessionState.fresh (speaking : Bool) : SessionState :=
  { gate := { speaking } }

structure Visit where
  before : SessionState
  event : SessionEvent

inductive Writer where
  | speechStarted
  | speechEnded
  | interrupt
  | hook
  deriving DecidableEq, Repr

structure FlagWrite where
  writer : Writer
  value : Bool
  deriving DecidableEq, Repr

namespace FlagWrite

def last (flag : Bool) (ws : List FlagWrite) : Bool :=
  ws.foldl (fun _ w => w.value) flag

def changes (flag : Bool) : List FlagWrite → List FlagWrite
  | [] => []
  | w :: ws => if w.value = flag then changes flag ws else w :: changes w.value ws

lemma last_append (flag : Bool) (ws ws' : List FlagWrite) :
    last flag (ws ++ ws') = last (last flag ws) ws' := by
  simp [last]

lemma changes_append (flag : Bool) (ws ws' : List FlagWrite) :
    changes flag (ws ++ ws') = changes flag ws ++ changes (last flag ws) ws' := by
  induction ws generalizing flag with
  | nil => rfl
  | cons w ws ih =>
    by_cases h : w.value = flag
    · simp [changes, last, h, ih]
    · simp [changes, last, h, ih]

end FlagWrite

def Log.flags (log : Log) : List Bool :=
  log.filterMap fun
    | .speakingChanged b => some b
    | _ => none

@[simp] lemma Log.flags_append (log log' : Log) : Log.flags (log ++ log') = log.flags ++ log'.flags :=
  List.filterMap_append

def LogEntry.isVerdict : LogEntry → Bool
  | .decided .. | .policyFailed .. | .recorded .. | .transcriptFiltered .. | .transcriptAllowed .. =>
    true
  | .filterReady .. | .speakingChanged .. | .sessionClosed .. => false

lemma Log.flags_of_verdicts {log : Log} (h : ∀ entry ∈ log, entry.isVerdict = true) :
    log.flags = [] := by
  rw [Log.flags, List.filterMap_eq_nil_iff]
  intro entry he
  have hv := h entry he
  cases entry with
  | speakingChanged b => cases hv
  | _ => rfl

namespace GateState

def write (s : GateState) (ws : List FlagWrite) : GateState :=
  ws.foldl (fun s w => s.setSpeaking w.value) s

@[simp] lemma write_nil (s : GateState) : s.write [] = s := rfl

lemma write_cons (s : GateState) (w : FlagWrite) (ws : List FlagWrite) :
    s.write (w :: ws) = (s.setSpeaking w.value).write ws := rfl

lemma speaking_write (s : GateState) (ws : List FlagWrite) :
    (s.write ws).speaking = FlagWrite.last s.speaking ws := by
  induction ws generalizing s with
  | nil => rfl
  | cons w ws ih =>
    rw [write_cons, ih, speaking_setSpeaking]
    rfl

lemma flags_write (s : GateState) (ws : List FlagWrite) :
    (s.write ws).log.flags =
      s.log.flags ++ (FlagWrite.changes s.speaking ws).map FlagWrite.value := by
  induction ws generalizing s with
  | nil => simp [FlagWrite.changes]
  | cons w ws ih =>
    rw [write_cons, ih, log_setSpeaking, speaking_setSpeaking]
    by_cases h : s.speaking = w.value
    · simp [FlagWrite.changes, h]
    · simp [FlagWrite.changes, h, Ne.symm h, Log.flags]

end GateState

namespace Consumer

def hears (c : Consumer) : Hook → Bool
  | .filtered => c.hearsFiltered
  | .interrupt | .userTurn => true

end Consumer

namespace SessionState

def closed (g : Gate) (s : SessionState) : SessionState :=
  { s with gate := { s.gate with log := s.gate.log ++ [g.closing s.summary] } }

variable (g : Gate) (s : SessionState)

@[simp] lemma calls_closed : (s.closed g).calls = s.calls := rfl

@[simp] lemma summary_closed : (s.closed g).summary = s.summary := rfl

@[simp] lemma speaking_closed : (s.closed g).gate.speaking = s.gate.speaking := rfl

@[simp] lemma events_closed : (s.closed g).gate.events = s.gate.events := rfl

@[simp] lemma log_closed : (s.closed g).gate.log = s.gate.log ++ [g.closing s.summary] := rfl

end SessionState

namespace Gate

variable (g : Gate) (c : Consumer)

def visits (s : SessionState) : List SessionEvent → List Visit
  | [] => []
  | e :: es => ⟨s, e⟩ :: if (g.step c s e).2.isSome then [] else visits (g.step c s e).1 es

def callOf? (v : Visit) : Option HookCall :=
  match v.event with
  | .speechStarted | .speechEnded => none
  | .utterance u =>
    match (g.handle v.before.gate u).1 with
    | .ignored => none
    | .filtered d => some ⟨.filtered, u.text, d, v.before.gate.speaking⟩
    | .interrupt d => some ⟨.interrupt, u.text, d, false⟩
    | .userTurn d => some ⟨.userTurn, u.text, d, v.before.gate.speaking⟩

def heardOf (v : Visit) : List HookCall :=
  (g.callOf? v).toList.filter fun call => c.hears call.hook

def hookWrites (v : Visit) (call : HookCall) : List FlagWrite :=
  if c.hears call.hook then (c.react v.before.calls call).writes.map fun b => ⟨.hook, b⟩ else []

def writesOf (v : Visit) : List FlagWrite :=
  match v.event with
  | .speechStarted => [⟨.speechStarted, true⟩]
  | .speechEnded => [⟨.speechEnded, false⟩]
  | .utterance _ =>
    match g.callOf? v with
    | none => []
    | some call =>
      (if call.hook = .interrupt then [⟨.interrupt, false⟩] else []) ++ hookWrites c v call

def handled (v : Visit) : GateState :=
  match v.event with
  | .speechStarted | .speechEnded => v.before.gate
  | .utterance u => (g.handle v.before.gate u).2

def counted (v : Visit) : Summary :=
  match v.event with
  | .speechStarted | .speechEnded => v.before.summary
  | .utterance u => v.before.summary.count (g.handle v.before.gate u).1

def failureOf? (v : Visit) : Option String :=
  (g.callOf? v).bind fun call =>
    if c.hears call.hook then (c.react v.before.calls call).failure else none

lemma writer_hookWrites {v : Visit} {call : HookCall} {w : FlagWrite}
    (h : w ∈ hookWrites c v call) : w.writer = .hook := by
  rw [hookWrites] at h
  split at h
  · obtain ⟨b, -, rfl⟩ := List.mem_map.mp h
    rfl
  · simp at h

lemma writer_of_clear {v : Visit} {w : FlagWrite} (h : w ∈ g.writesOf c v)
    (hw : w.value = false) :
    w.writer = .speechEnded ∨ w.writer = .interrupt ∨ w.writer = .hook := by
  obtain ⟨s, e⟩ := v
  cases e with
  | speechStarted =>
    obtain rfl := List.mem_singleton.mp h
    simp at hw
  | speechEnded =>
    obtain rfl := List.mem_singleton.mp h
    exact Or.inl rfl
  | utterance u =>
    simp only [writesOf] at h
    cases hc : g.callOf? ⟨s, .utterance u⟩ with
    | none => simp [hc] at h
    | some call =>
      rw [hc] at h
      rcases List.mem_append.mp h with hi | hh
      · split at hi
        · obtain rfl := List.mem_singleton.mp hi
          exact Or.inr (Or.inl rfl)
        · simp at hi
      · exact Or.inr (Or.inr (writer_hookWrites c hh))

lemma foldl_setSpeaking (s : SessionState) (bs : List Bool) :
    bs.foldl SessionState.setSpeaking s =
      { s with gate := s.gate.write (bs.map fun b => ⟨.hook, b⟩) } := by
  induction bs generalizing s with
  | nil => rfl
  | cons b bs ih =>
    rw [List.foldl_cons, ih]
    rfl

lemma call_eq (s : SessionState) (hook : Hook) (text : String) (d : Decision) :
    s.call c hook text d =
      ({ s with
          gate := s.gate.write
            ((c.react s.calls ⟨hook, text, d, s.gate.speaking⟩).writes.map fun b => ⟨.hook, b⟩)
          calls := s.calls ++ [⟨hook, text, d, s.gate.speaking⟩] },
        (c.react s.calls ⟨hook, text, d, s.gate.speaking⟩).failure) := by
  simp only [SessionState.call, foldl_setSpeaking]

lemma step_eq (v : Visit) :
    g.step c v.before v.event =
      (⟨(g.handled v).write (g.writesOf c v), g.counted v, v.before.calls ++ g.heardOf c v⟩,
        g.failureOf? c v) := by
  obtain ⟨s, e⟩ := v
  cases e with
  | speechStarted | speechEnded =>
    simp [step, handled, writesOf, counted, heardOf, failureOf?, callOf?, SessionState.setSpeaking,
      GateState.write_cons]
  | utterance u =>
    cases ho : (g.handle s.gate u).1 with
    | ignored =>
      simp [step, handled, writesOf, counted, heardOf, failureOf?, callOf?, ho,
        SessionState.dispatch]
    | filtered d =>
      cases hc : c.hearsFiltered <;>
        simp [step, handled, writesOf, hookWrites, counted, heardOf, failureOf?, callOf?, ho, hc,
          SessionState.dispatch, Consumer.hears, call_eq]
    | interrupt d | userTurn d =>
      simp [step, handled, writesOf, hookWrites, counted, heardOf, failureOf?, callOf?, ho,
        SessionState.dispatch, SessionState.setSpeaking, Consumer.hears, call_eq,
        GateState.write_cons]

lemma calls_step (v : Visit) :
    (g.step c v.before v.event).1.calls = v.before.calls ++ g.heardOf c v := by
  rw [step_eq]

lemma gate_step (v : Visit) :
    (g.step c v.before v.event).1.gate = (g.handled v).write (g.writesOf c v) := by
  rw [step_eq]

lemma summary_step (v : Visit) : (g.step c v.before v.event).1.summary = g.counted v := by
  rw [step_eq]

lemma failure_step (v : Visit) : (g.step c v.before v.event).2 = g.failureOf? c v := by
  rw [step_eq]

lemma steps_cons (s : SessionState) (e : SessionEvent) (es : List SessionEvent) :
    g.steps c s (e :: es) =
      if (g.step c s e).2.isSome then g.step c s e else g.steps c (g.step c s e).1 es := by
  rw [steps]
  rcases g.step c s e with ⟨s', _ | failure⟩ <;> rfl

lemma steps_gain {α : Type} (kept : SessionState → List α) (gain : Visit → List α)
    (hstep : ∀ v : Visit, kept (g.step c v.before v.event).1 = kept v.before ++ gain v)
    (s : SessionState) (es : List SessionEvent) :
    kept (g.steps c s es).1 = kept s ++ (g.visits c s es).flatMap gain := by
  -- A failing step ends both the run and the visits, so the step alone accounts for the gain.
  induction es generalizing s with
  | nil => simp [steps, visits]
  | cons e es ih =>
    have he := hstep ⟨s, e⟩
    rw [steps_cons, visits, List.flatMap_cons]
    cases (g.step c s e).2.isSome with
    | true => simpa using he
    | false =>
      rw [if_neg (by simp), if_neg (by simp), ih, he, List.append_assoc]

lemma visits_prefix (s : SessionState) (es : List SessionEvent) :
    (g.visits c s es).map Visit.event <+: es := by
  induction es generalizing s with
  | nil => simp [visits]
  | cons e es ih =>
    rw [visits, List.map_cons, List.cons_prefix_cons]
    refine ⟨rfl, ?_⟩
    split
    · exact List.nil_prefix
    · exact ih _

lemma visits_complete {s : SessionState} {es : List SessionEvent}
    (h : (g.steps c s es).2 = none) : (g.visits c s es).map Visit.event = es := by
  induction es generalizing s with
  | nil => rfl
  | cons e es ih =>
    rw [steps_cons] at h
    rw [visits, List.map_cons]
    cases hf : (g.step c s e).2.isSome with
    | true =>
      rw [hf, if_pos rfl] at h
      simp [h] at hf
    | false =>
      rw [hf, if_neg (by simp)] at h
      rw [if_neg (by simp), ih h]

lemma isVerdict_judge (s : GateState) (text : String) :
    ∀ entry ∈ (g.judge s text).log, entry.isVerdict = true := by
  have hj : ∀ entry ∈ (g.filter.judge s.calls text s.speaking
      (some (speakingLabel s.speaking))).log, entry.isVerdict = true := by
    unfold Filter.judge
    split
    · simp
    · split
      · simp
      · split <;> simp [LogEntry.isVerdict]
  intro entry he
  rcases List.mem_append.mp he with h | h
  · exact hj entry h
  · obtain rfl := List.mem_singleton.mp h
    rfl

lemma log_handle (s : GateState) (u : Utterance) :
    ∃ added : Log, (g.handle s u).2.log = s.log ++ added ∧
      ∀ entry ∈ added, entry.isVerdict = true := by
  cases hf : u.isFinal with
  | false => exact ⟨[], by simp [handle_partial g s hf], by simp⟩
  | true =>
    let d := (g.judge s u.text).decision
    let e := Event.ofDecision g.session u.text s.speaking d
    refine ⟨(g.judge s u.text).log ++ (g.logged e ++ [g.verdictEntry u.text s.speaking d]), ?_, ?_⟩
    · simp [handle, hf, afterJudgement, d, e]
    · intro entry he
      rcases List.mem_append.mp he with h | h
      · exact isVerdict_judge g s u.text entry h
      · rcases List.mem_append.mp h with h | h
        · rw [logged] at h
          split at h
          · obtain rfl := List.mem_singleton.mp h
            rfl
          · simp at h
        · obtain rfl := List.mem_singleton.mp h
          rw [verdictEntry]
          split <;> rfl

lemma flags_handle (s : GateState) (u : Utterance) :
    (g.handle s u).2.log.flags = s.log.flags := by
  obtain ⟨added, hl, hv⟩ := g.log_handle s u
  rw [hl, Log.flags_append, Log.flags_of_verdicts hv, List.append_nil]

lemma speaking_handled (v : Visit) : (g.handled v).speaking = v.before.gate.speaking := by
  obtain ⟨s, e⟩ := v
  cases e with
  | speechStarted | speechEnded => rfl
  | utterance u => exact g.speaking_handle s.gate u

lemma flags_handled (v : Visit) : (g.handled v).log.flags = v.before.gate.log.flags := by
  obtain ⟨s, e⟩ := v
  cases e with
  | speechStarted | speechEnded => rfl
  | utterance u => exact g.flags_handle s.gate u

lemma speaking_step (v : Visit) :
    (g.step c v.before v.event).1.gate.speaking =
      FlagWrite.last v.before.gate.speaking (g.writesOf c v) := by
  rw [gate_step, GateState.speaking_write, speaking_handled]

lemma flags_step (v : Visit) :
    (g.step c v.before v.event).1.gate.log.flags = v.before.gate.log.flags ++
      (FlagWrite.changes v.before.gate.speaking (g.writesOf c v)).map FlagWrite.value := by
  rw [gate_step, GateState.flags_write, speaking_handled, flags_handled]

lemma steps_flags (s : SessionState) (es : List SessionEvent) :
    let writes := (g.visits c s es).flatMap (g.writesOf c)
    (g.steps c s es).1.gate.speaking = FlagWrite.last s.gate.speaking writes ∧
    (g.steps c s es).1.gate.log.flags =
      s.gate.log.flags ++ (FlagWrite.changes s.gate.speaking writes).map FlagWrite.value := by
  induction es generalizing s with
  | nil => simp [steps, visits, FlagWrite.last, FlagWrite.changes]
  | cons e es ih =>
    have hs := g.speaking_step c ⟨s, e⟩
    have hf := g.flags_step c ⟨s, e⟩
    rw [steps_cons, visits, List.flatMap_cons]
    cases (g.step c s e).2.isSome with
    | true => simpa using ⟨hs, hf⟩
    | false =>
      obtain ⟨hs', hf'⟩ := ih (g.step c s e).1
      simp only [hs, hf] at hs' hf'
      simp only [Bool.false_eq_true, if_false, FlagWrite.last_append, FlagWrite.changes_append,
        List.map_append]
      exact ⟨hs', by rw [hf', List.append_assoc]⟩

lemma speaking_visit {s : SessionState} {es : List SessionEvent} {earlier later : List Visit}
    {v : Visit} (h : g.visits c s es = earlier ++ v :: later) :
    v.before.gate.speaking =
      FlagWrite.last s.gate.speaking (earlier.flatMap (g.writesOf c)) := by
  induction es generalizing s earlier with
  | nil => simp [visits] at h
  | cons e es ih =>
    rw [visits] at h
    cases earlier with
    | nil =>
      obtain ⟨rfl, -⟩ := List.cons.inj h
      rfl
    | cons u earlier =>
      obtain ⟨rfl, hr⟩ := List.cons.inj h
      cases hf : (g.step c s e).2.isSome with
      | true => simp [hf] at hr
      | false =>
        rw [hf, if_neg (by simp)] at hr
        rw [List.flatMap_cons, FlagWrite.last_append, ← g.speaking_step c ⟨s, e⟩]
        exact ih hr

lemma run_of_completed {speaking : Bool} {es : List SessionEvent}
    (h : (g.steps c (.fresh speaking) es).2 = none) :
    g.run c speaking es =
      (.ok (g.steps c (.fresh speaking) es).1.summary,
        (g.steps c (.fresh speaking) es).1.closed g) := by
  rcases hs : g.steps c (.fresh speaking) es with ⟨s, _ | failure⟩
  · simp only [run, hs]
    rfl
  · simp [hs] at h

lemma run_of_failed {speaking : Bool} {es : List SessionEvent} {failure : String}
    (h : (g.steps c (.fresh speaking) es).2 = some failure) :
    g.run c speaking es = (.error failure, (g.steps c (.fresh speaking) es).1) := by
  rcases hs : g.steps c (.fresh speaking) es with ⟨s, _ | failure'⟩
  · simp [hs] at h
  · simp only [hs, Option.some.injEq] at h
    simp only [run, hs, h]

lemma run_ok_iff (speaking : Bool) (es : List SessionEvent) (m : Summary) :
    (g.run c speaking es).1 = .ok m ↔
      (g.steps c (.fresh speaking) es).2 = none ∧
        (g.steps c (.fresh speaking) es).1.summary = m := by
  cases hs : (g.steps c (.fresh speaking) es).2 with
  | none => simp [run_of_completed g c hs]
  | some failure => simp [run_of_failed g c hs]

lemma run_error_iff (speaking : Bool) (es : List SessionEvent) (failure : String) :
    (g.run c speaking es).1 = .error failure ↔
      (g.steps c (.fresh speaking) es).2 = some failure := by
  cases hs : (g.steps c (.fresh speaking) es).2 with
  | none => simp [run_of_completed g c hs]
  | some failure' => simp [run_of_failed g c hs]

lemma run_keeps (speaking : Bool) (es : List SessionEvent) :
    let s := (g.steps c (.fresh speaking) es).1
    let s' := (g.run c speaking es).2
    s'.calls = s.calls ∧ s'.gate.speaking = s.gate.speaking ∧
      s'.gate.log.flags = s.gate.log.flags := by
  cases hs : (g.steps c (.fresh speaking) es).2 with
  | none => simp [run_of_completed g c hs, Log.flags, closing]
  | some failure => simp [run_of_failed g c hs]

lemma calls_run (speaking : Bool) (es : List SessionEvent) :
    (g.run c speaking es).2.calls = (g.visits c (.fresh speaking) es).flatMap (g.heardOf c) := by
  rw [(g.run_keeps c speaking es).1]
  exact g.steps_gain c SessionState.calls (g.heardOf c) (g.calls_step c) (.fresh speaking) es

lemma flags_run (speaking : Bool) (es : List SessionEvent) :
    let writes := (g.visits c (.fresh speaking) es).flatMap (g.writesOf c)
    (g.run c speaking es).2.gate.speaking = FlagWrite.last speaking writes ∧
    (g.run c speaking es).2.gate.log.flags =
      (FlagWrite.changes speaking writes).map FlagWrite.value := by
  obtain ⟨-, hs, hl⟩ := g.run_keeps c speaking es
  rw [hs, hl]
  exact g.steps_flags c (.fresh speaking) es

lemma visits_run {speaking : Bool} {es : List SessionEvent} {m : Summary}
    (h : (g.run c speaking es).1 = .ok m) :
    (g.visits c (.fresh speaking) es).map Visit.event = es := by
  exact visits_complete g c ((run_ok_iff g c speaking es m).mp h).1

end Gate

end TurnTaking
