import Mathlib.Data.List.Basic
import TurnTaking.Proofs.Accounting

/-! Two interrupts have a start of speech between them where no hook sets the flag. -/

namespace TurnTaking

namespace FlagWrite

lemma exists_set_of_last {flag : Bool} {ws : List FlagWrite} (h : last flag ws = true) :
    flag = true ∨ ∃ w ∈ ws, w.value = true := by
  induction ws generalizing flag with
  | nil => exact Or.inl h
  | cons w ws ih =>
    rcases ih h with hw | ⟨w', hm, hv⟩
    · exact Or.inr ⟨w, by simp, hw⟩
    · exact Or.inr ⟨w', by simp [hm], hv⟩

end FlagWrite

namespace HookCall

def isInterrupt (call : HookCall) : Bool := call.hook = .interrupt

end HookCall

namespace Gate

variable (g : Gate) (c : Consumer)

def interrupts (v : Visit) : Bool := (g.callOf? v).any HookCall.isInterrupt

def SetsNoFlag (v : Visit) : Prop :=
  ∀ call ∈ g.heardOf c v, true ∉ (c.react v.before.calls call).writes

variable {g c} {v : Visit}

lemma interrupts_iff :
    g.interrupts v = true ↔ ∃ call, g.callOf? v = some call ∧ call.hook = .interrupt := by
  simp [interrupts, HookCall.isInterrupt, Option.any_eq_true]

lemma speaking_of_interrupts (h : g.interrupts v = true) : v.before.gate.speaking = true := by
  obtain ⟨call, hc, hi⟩ := interrupts_iff.mp h
  obtain ⟨u, -, ha⟩ := answers_of_callOf? g hc
  exact (ha.cleared hi).1

lemma value_hookWrites (hq : g.SetsNoFlag c v) {call : HookCall} (hc : g.callOf? v = some call)
    {w : FlagWrite} (hw : w ∈ hookWrites c v call) : w.value = false := by
  rw [hookWrites] at hw
  split at hw
  · rename_i hh
    have hm : call ∈ g.heardOf c v := by simp [heardOf, hc, hh]
    obtain ⟨b, hb, rfl⟩ := List.mem_map.mp hw
    cases b with
    | false => rfl
    | true => exact absurd hb (hq call hm)
  · simp at hw

lemma event_of_set (hq : g.SetsNoFlag c v) {w : FlagWrite} (hw : w ∈ g.writesOf c v)
    (hv : w.value = true) : v.event = .speechStarted := by
  obtain ⟨s, e⟩ := v
  cases e with
  | speechStarted => rfl
  | speechEnded =>
    obtain rfl := List.mem_singleton.mp hw
    cases hv
  | utterance u =>
    simp only [writesOf] at hw
    cases hc : g.callOf? ⟨s, .utterance u⟩ with
    | none => simp [hc] at hw
    | some call =>
      rw [hc] at hw
      rcases List.mem_append.mp hw with hi | hh
      · split at hi
        · obtain rfl := List.mem_singleton.mp hi
          cases hv
        · simp at hi
      · rw [value_hookWrites hq hc hh] at hv
        cases hv

lemma last_of_interrupts (hq : g.SetsNoFlag c v) (h : g.interrupts v = true) (flag : Bool) :
    FlagWrite.last flag (g.writesOf c v) = false := by
  obtain ⟨call, hc, hi⟩ := interrupts_iff.mp h
  obtain ⟨u, hu, -⟩ := answers_of_callOf? g hc
  have hw : g.writesOf c v = ⟨.interrupt, false⟩ :: hookWrites c v call := by
    simp [writesOf, hu, hc, hi]
  rw [hw, Bool.eq_false_iff]
  intro hl
  have hl' : FlagWrite.last false (hookWrites c v call) = true := hl
  rcases FlagWrite.exists_set_of_last hl' with hf | ⟨w, hm, hv⟩
  · cases hf
  · rw [value_hookWrites hq hc hm] at hv
    cases hv

lemma exists_start_of_last {visits : List Visit} (hq : ∀ v ∈ visits, g.SetsNoFlag c v)
    (h : FlagWrite.last false (visits.flatMap (g.writesOf c)) = true) :
    ∃ v ∈ visits, v.event = .speechStarted := by
  rcases FlagWrite.exists_set_of_last h with hf | ⟨w, hw, hv⟩
  · cases hf
  · obtain ⟨v, hm, hw⟩ := List.mem_flatMap.mp hw
    exact ⟨v, hm, event_of_set (hq v hm) hw hv⟩

section

variable {s : SessionState} {es : List SessionEvent}

lemma exists_start_before {earlier later : List Visit} {w : Visit}
    (hq : ∀ v ∈ g.visits c s es, g.SetsNoFlag c v)
    (hv : g.visits c s es = earlier ++ w :: later) (hs : s.gate.speaking = false)
    (hw : g.interrupts w = true) : ∃ x ∈ earlier, x.event = .speechStarted := by
  have hf := speaking_of_interrupts hw
  rw [g.speaking_visit c hv, hs] at hf
  refine exists_start_of_last (fun v hm => hq v ?_) hf
  rw [hv]
  exact List.mem_append_left _ hm

lemma exists_start_between {earlier between later : List Visit} {v w : Visit}
    (hq : ∀ v ∈ g.visits c s es, g.SetsNoFlag c v)
    (hv : g.visits c s es = earlier ++ v :: (between ++ w :: later))
    (hi : g.interrupts v = true) (hw : g.interrupts w = true) :
    ∃ x ∈ between, x.event = .speechStarted := by
  have hf := speaking_of_interrupts hw
  have hv' : g.visits c s es = (earlier ++ v :: between) ++ w :: later := by
    rw [hv]
    simp
  have hqv : g.SetsNoFlag c v := hq v (by rw [hv]; simp)
  rw [g.speaking_visit c hv', List.flatMap_append, List.flatMap_cons, FlagWrite.last_append,
    FlagWrite.last_append, last_of_interrupts hqv hi] at hf
  refine exists_start_of_last (fun x hm => hq x ?_) hf
  rw [hv]
  simp [hm]

end

lemma interrupts_step (hq : g.SetsNoFlag c v) :
    (if g.interrupts v then 1 else 0) +
        (if (g.step c v.before v.event).1.gate.speaking then 1 else 0) ≤
      (if v.event == .speechStarted then 1 else 0) + if v.before.gate.speaking then 1 else 0 := by
  rw [g.speaking_step c]
  cases hi : g.interrupts v with
  | true =>
    rw [last_of_interrupts hq hi, speaking_of_interrupts hi]
    simp
  | false =>
    cases hl : FlagWrite.last v.before.gate.speaking (g.writesOf c v) with
    | false => simp
    | true =>
      rcases FlagWrite.exists_set_of_last hl with hs | ⟨w, hw, hv⟩
      · simp [hs]
      · simp [event_of_set hq hw hv]

lemma interrupts_steps {s : SessionState} {es : List SessionEvent}
    (hq : ∀ v ∈ g.visits c s es, g.SetsNoFlag c v) :
    (g.visits c s es).countP g.interrupts +
        (if (g.steps c s es).1.gate.speaking then 1 else 0) ≤
      ((g.visits c s es).map Visit.event).count .speechStarted +
        if s.gate.speaking then 1 else 0 := by
  induction es generalizing s with
  | nil => exact Nat.le_refl _
  | cons e es ih =>
    rw [visits, List.forall_mem_cons] at hq
    have he := interrupts_step hq.1
    dsimp only at he
    rw [visits, steps_cons, List.map_cons, List.countP_cons, List.count_cons]
    cases hf : (g.step c s e).2.isSome with
    | true =>
      simp only [if_true, List.countP_nil, List.map_nil, List.count_nil]
      omega
    | false =>
      rw [hf, if_neg (by simp)] at hq
      have hr := ih hq.2
      simp only [Bool.false_eq_true, if_false]
      omega

lemma filter_heardOf (v : Visit) :
    (g.heardOf c v).filter HookCall.isInterrupt =
      (g.callOf? v).toList.filter HookCall.isInterrupt := by
  rw [heardOf, List.filter_filter]
  congr 1
  funext call
  cases hi : call.hook <;> simp [HookCall.isInterrupt, Consumer.hears, hi]

lemma filter_calls_run (speaking : Bool) (es : List SessionEvent) :
    (g.run c speaking es).2.calls.filter HookCall.isInterrupt =
      ((g.visits c (.fresh speaking) es).filterMap g.callOf?).filter HookCall.isInterrupt := by
  rw [calls_run, List.filter_flatMap, List.filterMap_eq_flatMap_toList, List.filter_flatMap]
  apply List.flatMap_congr
  intro v _
  exact filter_heardOf v

lemma countP_calls_run (speaking : Bool) (es : List SessionEvent) :
    (g.run c speaking es).2.calls.countP HookCall.isInterrupt =
      (g.visits c (.fresh speaking) es).countP g.interrupts := by
  rw [List.countP_eq_length_filter, filter_calls_run, ← List.countP_eq_length_filter,
    List.countP_filterMap]
  congr 1
  funext v
  rw [interrupts]
  cases g.callOf? v <;> rfl

theorem run_interrupts_once_per_start (g : Gate) (c : Consumer) (speaking : Bool)
    (es : List SessionEvent)
    (hq : ∀ v ∈ g.visits c (.fresh speaking) es, g.SetsNoFlag c v) :
    let run := g.run c speaking es
    let visits := g.visits c (.fresh speaking) es
    visits.map Visit.event <+: es ∧
    run.2.calls.filter HookCall.isInterrupt =
      (visits.filterMap g.callOf?).filter HookCall.isInterrupt ∧
    (∀ earlier v between w later, visits = earlier ++ v :: (between ++ w :: later) →
      g.interrupts v = true → g.interrupts w = true →
        ∃ x ∈ between, x.event = .speechStarted) ∧
    (∀ earlier w later, visits = earlier ++ w :: later → g.interrupts w = true →
      speaking = false → ∃ x ∈ earlier, x.event = .speechStarted) ∧
    run.2.calls.countP HookCall.isInterrupt ≤
      es.count .speechStarted + (if speaking then 1 else 0) ∧
    (speaking = false → .speechStarted ∉ es → ∀ call ∈ run.2.calls, call.hook ≠ .interrupt) := by
  intro run visits
  have hcount : run.2.calls.countP HookCall.isInterrupt ≤
      es.count .speechStarted + if speaking then 1 else 0 := by
    have hs := interrupts_steps hq
    have hl := (g.visits_prefix c (.fresh speaking) es).sublist.count_le .speechStarted
    rw [countP_calls_run]
    dsimp only at hs
    omega
  refine ⟨g.visits_prefix c _ es, filter_calls_run speaking es, ?_, ?_, hcount, ?_⟩
  · intro earlier v between w later hv hi hw
    exact exists_start_between hq hv hi hw
  · intro earlier w later hv hw hs
    exact exists_start_before hq hv hs hw
  · intro hs hn call hm hi
    rw [List.count_eq_zero.mpr hn, hs] at hcount
    have hpos : 0 < run.2.calls.countP HookCall.isInterrupt :=
      List.countP_pos_iff.mpr ⟨call, hm, by simp [HookCall.isInterrupt, hi]⟩
    simp only [Bool.false_eq_true, if_false] at hcount
    omega

theorem run_interrupts_once_per_start_twice :
    let policy : Policy := .cycle [.constant (.verdict false), .constant (.error (.failed "late"))]
    let g : Gate := ⟨"s", .ofValidated { ignoreList := ⟨["yeah"]⟩, policy := some policy }, .memory⟩
    let c : Consumer := ⟨fun past _ => ⟨[false], if past.length = 3 then some "gone" else none⟩, true⟩
    let es : List SessionEvent := [.utterance ⟨"yeah", true⟩, .utterance ⟨"stop", true⟩,
      .speechStarted, .utterance ⟨"mm", false⟩, .utterance ⟨"yeah", true⟩, .utterance ⟨"so", true⟩]
    (∀ v ∈ g.visits c (.fresh true) es, g.SetsNoFlag c v) ∧
      (g.run c true es).2.calls.countP HookCall.isInterrupt = 2 ∧
      2 ≤ es.count .speechStarted + 1 ∧
      (g.run c true es).1 = .error "gone" := by
  intro policy g c es
  have hq : ∀ v ∈ g.visits c (.fresh true) es, g.SetsNoFlag c v := by
    intro v _ call _
    simp [c]
  have hcount : (g.run c true es).2.calls.countP HookCall.isInterrupt = 2 := by
    simp only [g, c, es, policy]
    decide +kernel
  obtain ⟨-, -, -, -, hle, -⟩ := run_interrupts_once_per_start g c true es hq
  rw [hcount] at hle
  refine ⟨hq, hcount, hle, ?_⟩
  simp only [g, c, es, policy]
  decide +kernel

end Gate

end TurnTaking
