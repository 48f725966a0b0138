import Mathlib.Data.List.Basic
import Mathlib.Tactic.Common
import TurnTaking.Proofs.DecisionRules
import TurnTaking.Proofs.SessionTrace

namespace TurnTaking

namespace Hook

def entryFlag : Hook → Bool
  | filtered => true
  | interrupt | userTurn => false

end Hook

namespace HookCall

def heading (call : HookCall) : Hook × String × Bool :=
  (call.hook, call.transcript, call.speaking)

end HookCall

namespace Filter

def hookFor (f : Filter) (speaking : Bool) (text : String) : Hook :=
  if speaking = false then .userTurn
  else if f.isIgnoreOnly text then .filtered
  else .interrupt

def routed (f : Filter) (v : Visit) : Option (Hook × String × Bool) :=
  match v.event with
  | .speechStarted | .speechEnded => none
  | .utterance u =>
    if u.isFinal then
      let hook := f.hookFor v.before.gate.speaking u.text
      some (hook, u.text, hook.entryFlag)
    else none

lemma hookFor_ne_interrupt {f : Filter} {text : String} (h : f.isIgnoreOnly text = true)
    (speaking : Bool) : f.hookFor speaking text ≠ .interrupt := by
  cases speaking <;> simp [hookFor, h]

variable {f : Filter} (henabled : f.config.enabled = true) (hpolicy : f.config.policy = none)

include henabled hpolicy

lemma isFiltered_decide (calls : Nat) (text : String) (speaking : Bool) (state : Option String) :
    (f.decide calls text speaking state).decision.isFiltered =
      (speaking && f.isIgnoreOnly text) := by
  rw [decision_of_no_policy hpolicy, Bool.eq_iff_iff, Decision.isFiltered, decide_eq_true_iff,
    filters_iff]
  simp [henabled]

lemma ofDecision_decide (calls : Nat) (text : String) (speaking : Bool) (state : Option String) :
    let d := (f.decide calls text speaking state).decision
    Outcome.ofDecision speaking d =
      match f.hookFor speaking text with
      | .userTurn => .userTurn d
      | .filtered => .filtered d
      | .interrupt => .interrupt d := by
  intro d
  have hd : d.isFiltered = (speaking && f.isIgnoreOnly text) :=
    isFiltered_decide henabled hpolicy calls text speaking state
  cases speaking with
  | false => simp [Outcome.ofDecision, hookFor, hd]
  | true => cases hi : f.isIgnoreOnly text <;> simp [Outcome.ofDecision, hookFor, hd, hi]

end Filter

namespace Gate

section

variable {g : Gate} (henabled : g.filter.config.enabled = true)
  (hpolicy : g.filter.config.policy = none)

include henabled hpolicy

lemma callOf?_routed (v : Visit) : (g.callOf? v).map HookCall.heading = g.filter.routed v := by
  obtain ⟨s, e⟩ := v
  cases e with
  | speechStarted | speechEnded => rfl
  | utterance u =>
    cases hf : u.isFinal with
    | false => simp [callOf?, Filter.routed, handle_partial g s.gate hf, hf]
    | true =>
      have ho := (g.handle_final s.gate hf).trans (Filter.ofDecision_decide henabled hpolicy
        s.gate.calls u.text s.gate.speaking (some (speakingLabel s.gate.speaking)))
      cases hs : s.gate.speaking with
      | false => simp [callOf?, Filter.routed, Filter.hookFor, ho, hf, hs, HookCall.heading,
          Hook.entryFlag]
      | true =>
        cases hi : g.filter.isIgnoreOnly u.text <;>
          simp [callOf?, Filter.routed, Filter.hookFor, ho, hf, hs, hi, HookCall.heading,
            Hook.entryFlag]

lemma heardOf_routed (c : Consumer) (v : Visit) :
    (g.heardOf c v).map HookCall.heading =
      (g.filter.routed v).toList.filter fun r => c.hears r.1 := by
  rw [← callOf?_routed henabled hpolicy v, heardOf]
  cases g.callOf? v with
  | none => rfl
  | some call => cases hc : c.hears call.hook <;> simp [HookCall.heading, hc]

lemma writer_of_ignoreOnly (c : Consumer) {v : Visit} {u : Utterance}
    (hv : v.event = .utterance u) (hi : g.filter.isIgnoreOnly u.text = true) :
    ∀ w ∈ g.writesOf c v, w.writer = .hook := by
  have hr := callOf?_routed henabled hpolicy v
  simp only [writesOf, hv]
  cases hc : g.callOf? v with
  | none => simp
  | some call =>
    have hn : call.hook ≠ .interrupt := by
      intro h
      rw [hc, Filter.routed, hv] at hr
      cases hf : u.isFinal with
      | false => simp [hf] at hr
      | true =>
        simp only [hf, if_true, Option.map_some, Option.some.injEq, HookCall.heading,
          Prod.mk.injEq] at hr
        exact Filter.hookFor_ne_interrupt hi _ (hr.1.symm.trans h)
    intro w hw
    simp only [hn, if_false, List.nil_append] at hw
    exact writer_hookWrites c hw

end

theorem run_routes_transcripts (g : Gate) (c : Consumer) (speaking : Bool)
    (es : List SessionEvent) (henabled : g.filter.config.enabled = true)
    (hpolicy : g.filter.config.policy = none) :
    let run := g.run c speaking es
    let visits := g.visits c (.fresh speaking) es
    let writes := visits.flatMap (g.writesOf c)
    (visits.map Visit.event <+: es ∧
      ∀ summary, run.1 = .ok summary → visits.map Visit.event = es) ∧
    run.2.calls.map HookCall.heading =
      (visits.filterMap g.filter.routed).filter (fun r => c.hears r.1) ∧
    (∀ earlier v later, visits = earlier ++ v :: later →
      v.before.gate.speaking = FlagWrite.last speaking (earlier.flatMap (g.writesOf c))) ∧
    run.2.gate.speaking = FlagWrite.last speaking writes ∧
    run.2.gate.log.flags = (FlagWrite.changes speaking writes).map FlagWrite.value ∧
    (∀ w ∈ writes, w.value = false →
      w.writer = .speechEnded ∨ w.writer = .interrupt ∨ w.writer = .hook) ∧
    (∀ v ∈ visits, ∀ u, v.event = .utterance u → g.filter.isIgnoreOnly u.text = true →
      ∀ w ∈ g.writesOf c v, w.writer = .hook) := by
  intro run visits writes
  refine ⟨⟨g.visits_prefix c _ es, fun _ h => g.visits_run c h⟩, ?_,
    fun _ _ _ h => g.speaking_visit c h, (g.flags_run c speaking es).1,
    (g.flags_run c speaking es).2, ?_, ?_⟩
  · calc
      run.2.calls.map HookCall.heading
        = visits.flatMap fun v => (g.heardOf c v).map HookCall.heading := by
          simp only [run, calls_run, List.map_flatMap, visits]
      _ = visits.flatMap fun v => (g.filter.routed v).toList.filter fun r => c.hears r.1 := by
          simp only [heardOf_routed henabled hpolicy c]
      _ = (visits.filterMap g.filter.routed).filter fun r => c.hears r.1 := by
          rw [List.filterMap_eq_flatMap_toList, List.filter_flatMap]
  · intro w hw hc
    obtain ⟨v, -, hv⟩ := List.mem_flatMap.mp hw
    exact g.writer_of_clear c hv hc
  · intro v _ u hv hi
    exact writer_of_ignoreOnly henabled hpolicy c hv hi

theorem run_routes_transcripts_session :
    let g : Gate := ⟨"s", .ofValidated { ignoreList := ⟨["uh-huh", "go on"]⟩ }, .memory⟩
    let c : Consumer := ⟨fun _ call => ⟨[call.hook = .userTurn], none⟩, true⟩
    let es : List SessionEvent := [.utterance ⟨"hello", true⟩, .utterance ⟨"wait", false⟩,
      .utterance ⟨"Uh-huh, go on", true⟩, .speechStarted, .utterance ⟨"?!", true⟩]
    g.filter.config.enabled = true ∧ g.filter.config.policy = none ∧
      (g.run c false es).2.calls.map HookCall.heading =
        [(.userTurn, "hello", false), (.filtered, "Uh-huh, go on", true),
          (.interrupt, "?!", false)] := by
  intro g c es
  have henabled : g.filter.config.enabled = true := rfl
  have hpolicy : g.filter.config.policy = none := rfl
  refine ⟨henabled, hpolicy, ?_⟩
  rw [(run_routes_transcripts g c false es henabled hpolicy).2.1]
  decide +kernel

end Gate

end TurnTaking
