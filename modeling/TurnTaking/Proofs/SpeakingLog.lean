import Mathlib.Data.List.Destutter
import TurnTaking.Proofs.SessionSteps

/-! A write of the flag is logged if and only if it changes the flag. -/

namespace TurnTaking

namespace FlagWrite

lemma cons_changes (flag : Bool) (ws : List FlagWrite) :
    flag :: (changes flag ws).map value = (flag :: ws.map value).destutter (· ≠ ·) := by
  rw [List.destutter_cons']
  induction ws generalizing flag with
  | nil => rfl
  | cons w ws ih =>
    by_cases h : w.value = flag
    · rw [changes, if_pos h, List.map_cons, List.destutter'_cons_neg _ (by simp [h]), ih]
    · rw [changes, if_neg h, List.map_cons, List.map_cons,
        List.destutter'_cons_pos _ (Ne.symm h), ih]

lemma last_changes (flag : Bool) (ws : List FlagWrite) :
    last flag ws = ((changes flag ws).map value).getLast?.getD flag := by
  induction ws generalizing flag with
  | nil => rfl
  | cons w ws ih =>
    have hlast : last flag (w :: ws) = last w.value ws := rfl
    by_cases h : w.value = flag
    · rw [hlast, changes, if_pos h, h, ih]
    · rw [hlast, changes, if_neg h, List.map_cons, List.getLast?_cons, ih]
      rfl

end FlagWrite

namespace SessionEvent

def boundary? : SessionEvent → Option Bool
  | speechStarted => some true
  | speechEnded => some false
  | utterance _ => none

end SessionEvent

namespace Consumer

/-- The two react alike, save that the hooks of either may also write the flag as it is. -/
structure SameChanges (c c' : Consumer) : Prop where
  hears : c.hearsFiltered = c'.hearsFiltered
  failure : ∀ past call, (c.react past call).failure = (c'.react past call).failure
  writes : ∀ past call,
    (call.speaking :: (c.react past call).writes).destutter (· ≠ ·) =
      (call.speaking :: (c'.react past call).writes).destutter (· ≠ ·)

end Consumer

namespace GateState

lemma setSpeaking_of_eq {s : GateState} {b : Bool} (h : s.speaking = b) : s.setSpeaking b = s := by
  rw [setSpeaking, if_pos h]

end GateState

namespace SessionState

lemma setSpeaking_of_eq {s : SessionState} {b : Bool} (h : s.gate.speaking = b) :
    s.setSpeaking b = s := by
  rw [setSpeaking, GateState.setSpeaking_of_eq h]

lemma foldl_destutter (s : SessionState) (b : Bool) (bs : List Bool) :
    ((b :: bs).destutter (· ≠ ·)).foldl setSpeaking s = (b :: bs).foldl setSpeaking s := by
  rw [List.destutter_cons']
  -- The head is the value that was written last, so the next one counts only if it differs from it.
  induction bs generalizing s b with
  | nil => rfl
  | cons b' bs ih =>
    by_cases h : b = b'
    · subst h
      have htwice : (s.setSpeaking b).setSpeaking b = s.setSpeaking b :=
        setSpeaking_of_eq (GateState.speaking_setSpeaking s.gate b)
      rw [List.destutter'_cons_neg _ (by simp), ih, List.foldl_cons, List.foldl_cons,
        List.foldl_cons, htwice]
    · rw [List.destutter'_cons_pos _ h, List.foldl_cons, ih]
      rfl

lemma foldl_of_destutter_eq {s : SessionState} {bs bs' : List Bool}
    (h : (s.gate.speaking :: bs).destutter (· ≠ ·) = (s.gate.speaking :: bs').destutter (· ≠ ·)) :
    bs.foldl setSpeaking s = bs'.foldl setSpeaking s := by
  have hself : s.setSpeaking s.gate.speaking = s := setSpeaking_of_eq rfl
  calc
    bs.foldl setSpeaking s = (s.gate.speaking :: bs).foldl setSpeaking s := by
      rw [List.foldl_cons, hself]
    _ = (s.gate.speaking :: bs').foldl setSpeaking s := by
      rw [← foldl_destutter, h, foldl_destutter]
    _ = bs'.foldl setSpeaking s := by rw [List.foldl_cons, hself]

variable {c c' : Consumer} (h : c.SameChanges c')

include h

lemma call_of_sameChanges (s : SessionState) (hook : Hook) (text : String) (d : Decision) :
    s.call c hook text d = s.call c' hook text d := by
  let call : HookCall := ⟨hook, text, d, s.gate.speaking⟩
  let heard : SessionState := { s with calls := s.calls ++ [call] }
  have hwrites : (c.react s.calls call).writes.foldl setSpeaking heard =
      (c'.react s.calls call).writes.foldl setSpeaking heard :=
    foldl_of_destutter_eq (h.writes s.calls call)
  exact Prod.ext hwrites (h.failure s.calls call)

lemma dispatch_of_sameChanges (s : SessionState) (text : String) (o : Outcome) :
    s.dispatch c text o = s.dispatch c' text o := by
  cases o with
  | ignored => rfl
  | filtered d => simp only [dispatch, h.hears, call_of_sameChanges h]
  | interrupt d | userTurn d => exact call_of_sameChanges h _ _ text d

end SessionState

namespace Gate

section

variable (g : Gate) {c c' : Consumer} (h : c.SameChanges c')

include h

lemma step_of_sameChanges (s : SessionState) (e : SessionEvent) : g.step c s e = g.step c' s e := by
  cases e with
  | speechStarted | speechEnded => rfl
  | utterance u => exact SessionState.dispatch_of_sameChanges h _ u.text _

lemma steps_of_sameChanges (s : SessionState) (es : List SessionEvent) :
    g.steps c s es = g.steps c' s es := by
  induction es generalizing s with
  | nil => rfl
  | cons e es ih => rw [steps_cons, steps_cons, step_of_sameChanges g h, ih]

end

variable (g : Gate) (c : Consumer)

lemma run_of_steps_eq {c' : Consumer} {speaking : Bool} {es es' : List SessionEvent}
    (h : g.steps c (.fresh speaking) es = g.steps c' (.fresh speaking) es') :
    g.run c speaking es = g.run c' speaking es' := by
  rw [run, run, h]

lemma step_boundary {s : SessionState} {e : SessionEvent}
    (h : e.boundary? = some s.gate.speaking) : g.step c s e = (s, none) := by
  cases e with
  | speechStarted =>
    have hs : s.gate.speaking = true := (Option.some.inj h).symm
    rw [step, SessionState.setSpeaking_of_eq hs]
  | speechEnded =>
    have hs : s.gate.speaking = false := (Option.some.inj h).symm
    rw [step, SessionState.setSpeaking_of_eq hs]
  | utterance u => cases h

lemma steps_without_boundary {s : SessionState} {front : List SessionEvent} {e : SessionEvent}
    (h : e.boundary? = some (g.steps c s front).1.gate.speaking) (rest : List SessionEvent) :
    g.steps c s (front ++ e :: rest) = g.steps c s (front ++ rest) := by
  cases hf : (g.steps c s front).2 with
  | some failure => rw [steps_append_failed g c hf, steps_append_failed g c hf]
  | none =>
    have he := step_boundary g c h
    rw [steps_append_passed g c hf, steps_append_passed g c hf,
      steps_cons_passed g c (by rw [he]), he]

/-- The values of the flag that the log holds are those written without repetitions: each differs
from the one before and the first from the initial flag, and the last one is the flag at the end. -/
theorem run_log_tells_flag (g : Gate) (c : Consumer) (speaking : Bool) (es : List SessionEvent) :
    let run := g.run c speaking es
    let flags := run.2.gate.log.flags
    let writes := (g.visits c (.fresh speaking) es).flatMap (g.writesOf c)
    (speaking :: flags).IsChain (· ≠ ·) ∧
    run.2.gate.speaking = flags.getLast?.getD speaking ∧
    speaking :: flags = (speaking :: writes.map FlagWrite.value).destutter (· ≠ ·) ∧
    (∀ front e rest, es = front ++ e :: rest →
      e.boundary? = some (g.run c speaking front).2.gate.speaking →
      run = g.run c speaking (front ++ rest)) ∧
    ∀ c', c.SameChanges c' → run = g.run c' speaking es := by
  intro run flags writes
  obtain ⟨hspeaking, hlog⟩ := g.flags_run c speaking es
  have hflags : flags = (FlagWrite.changes speaking writes).map FlagWrite.value := hlog
  have hvalues : speaking :: flags = (speaking :: writes.map FlagWrite.value).destutter (· ≠ ·) := by
    rw [hflags, FlagWrite.cons_changes]
  refine ⟨?_, ?_, hvalues, ?_, ?_⟩
  · rw [hvalues]
    exact List.isChain_destutter _ _
  · rw [hflags, ← FlagWrite.last_changes]
    exact hspeaking
  · rintro front e rest hes he
    rw [(g.run_keeps c speaking front).2.1] at he
    have hs := steps_without_boundary g c he rest
    rw [← hes] at hs
    exact run_of_steps_eq g c hs
  · intro c' h
    exact run_of_steps_eq g c (steps_of_sameChanges g h _ es)

theorem run_log_tells_flag_repeats :
    let g : Gate := ⟨"s", .ofValidated { ignoreList := ⟨["yeah"]⟩ }, .memory⟩
    let c : Consumer := ⟨fun past call =>
      ⟨[call.speaking, true, true], if past.length = 2 then some "gone" else none⟩, true⟩
    let c' : Consumer := ⟨fun past _ => ⟨[true], if past.length = 2 then some "gone" else none⟩, true⟩
    let front : List SessionEvent := [.speechStarted, .utterance ⟨"yeah", true⟩]
    let rest : List SessionEvent := [.utterance ⟨"stop", true⟩, .speechEnded,
      .utterance ⟨"hello", true⟩, .speechEnded]
    let run := g.run c false (front ++ .speechStarted :: rest)
    run.1 = .error "gone" ∧ run.2.gate.log.flags = [true, false, true, false, true] ∧
      run.2.gate.speaking = true ∧ run = g.run c false (front ++ rest) ∧
      run = g.run c' false (front ++ .speechStarted :: rest) := by
  intro g c c' front rest run
  have hflags : run.2.gate.log.flags = [true, false, true, false, true] := by
    simp only [run, g, c, front, rest]
    decide +kernel
  have hfront : (g.run c false front).2.gate.speaking = true := by
    simp only [g, c, front]
    decide +kernel
  obtain ⟨-, hspeaking, -, hboundary, hchanges⟩ :=
    run_log_tells_flag g c false (front ++ .speechStarted :: rest)
  have hsame : c.SameChanges c' := by
    refine ⟨rfl, fun past call => rfl, ?_⟩
    rintro past ⟨hook, text, d, speaking⟩
    cases speaking <;> rfl
  refine ⟨?_, hflags, ?_, ?_, hchanges c' hsame⟩
  · simp only [run, g, c, front, rest]
    decide +kernel
  · rw [hspeaking, hflags]
    rfl
  · exact hboundary front .speechStarted rest rfl (congrArg some hfront.symm)

end Gate

end TurnTaking
