import Mathlib.Data.List.Basic
import TurnTaking.Agent.Gate
import TurnTaking.Proofs.DecisionRules

namespace TurnTaking

def Policy.IsPure (p : Policy) : Prop :=
  ∀ calls calls' text state, p.reply calls text state = p.reply calls' text state

inductive GateOperation where
  | setSpeaking (speaking : Bool)
  | handle (u : Utterance)
  | ask (text : String)
  deriving DecidableEq, Repr

namespace GateOperation

def flag? : GateOperation → Option Bool
  | setSpeaking speaking => some speaking
  | handle _ | ask _ => none

def finalText? : GateOperation → Option String
  | handle u => if u.isFinal then some u.text else none
  | setSpeaking _ | ask _ => none

end GateOperation

structure GateTurn where
  before : GateState
  operation : GateOperation

namespace Outcome

lemma decision?_ofDecision (speaking : Bool) (d : Decision) :
    (ofDecision speaking d).decision? = some d := by
  rw [ofDecision]
  split
  · rfl
  · split <;> rfl

lemma ofDecision_eq_filtered_iff (speaking : Bool) (d : Decision) :
    (∃ d', ofDecision speaking d = filtered d') ↔ d.action = .filter := by
  by_cases h : d.action = .filter
  · simp [ofDecision, Decision.isFiltered, h]
  · cases speaking <;> simp [ofDecision, Decision.isFiltered, h]

lemma speaking_of_ofDecision {speaking : Bool} {d d' : Decision} :
    (ofDecision speaking d = interrupt d' → speaking = true) ∧
      (ofDecision speaking d = userTurn d' → speaking = false) := by
  cases hf : d.isFiltered <;> cases speaking <;> simp [ofDecision, hf]

end Outcome

namespace Gate

variable (g : Gate)

def perform (s : GateState) : GateOperation → GateState
  | .setSpeaking speaking => s.setSpeaking speaking
  | .handle u => (g.handle s u).2
  | .ask text => (g.allowsInterruption s text).2

def turns (s : GateState) : List GateOperation → List GateTurn
  | [] => []
  | op :: ops => ⟨s, op⟩ :: turns (g.perform s op) ops

def recordOf? (t : GateTurn) : Option Event :=
  match t.operation with
  | .handle u =>
    (g.handle t.before u).1.decision?.map
      (Event.ofDecision g.session u.text t.before.speaking)
  | .setSpeaking _ | .ask _ => none

lemma decision?_handle_final (s : GateState) {u : Utterance} (h : u.isFinal = true) :
    (g.handle s u).1.decision? = some (g.judge s u.text).decision := by
  rw [g.handle_final s h, Outcome.decision?_ofDecision]

lemma recordOf?_final (s : GateState) {u : Utterance} (h : u.isFinal = true) :
    g.recordOf? ⟨s, .handle u⟩ =
      some (.ofDecision g.session u.text s.speaking (g.judge s u.text).decision) := by
  simp [recordOf?, decision?_handle_final g s h]

lemma recordOf?_partial (s : GateState) {u : Utterance} (h : u.isFinal = false) :
    g.recordOf? ⟨s, .handle u⟩ = none := by
  simp [recordOf?, handle_partial g s h, Outcome.decision?]

lemma recordOf?_eq_some_iff (t : GateTurn) (e : Event) :
    g.recordOf? t = some e ↔ ∃ u d, t.operation = .handle u ∧ u.isFinal = true ∧
      (g.handle t.before u).1.decision? = some d ∧
      e = ⟨g.session, u.text, t.before.speaking, d.action, d.reason, d.confidence, d.rule?⟩ := by
  obtain ⟨s, op⟩ := t
  cases op with
  | setSpeaking speaking | ask text => simp [recordOf?]
  | handle u =>
    cases hf : u.isFinal with
    | false => simp [recordOf?_partial g s hf, hf]
    | true =>
      rw [recordOf?_final g s hf]
      constructor
      · intro h
        exact ⟨u, _, rfl, hf, decision?_handle_final g s hf, (Option.some.inj h).symm⟩
      · rintro ⟨u', d, hu, -, hd, rfl⟩
        obtain rfl := GateOperation.handle.inj hu
        obtain rfl := Option.some.inj ((decision?_handle_final g s hf).symm.trans hd)
        rfl

lemma transcript_recordOf? (t : GateTurn) :
    (g.recordOf? t).map Event.transcript = t.operation.finalText? := by
  obtain ⟨s, op⟩ := t
  cases op with
  | setSpeaking speaking | ask text => rfl
  | handle u =>
    cases hf : u.isFinal with
    | false => simp [recordOf?_partial g s hf, GateOperation.finalText?, hf]
    | true => simp [recordOf?_final g s hf, GateOperation.finalText?, hf, Event.ofDecision]

lemma events_perform (t : GateTurn) :
    (g.perform t.before t.operation).events =
      t.before.events ++ (g.recordOf? t).toList.flatMap g.kept := by
  obtain ⟨s, op⟩ := t
  cases op with
  | setSpeaking speaking | ask text => simp [perform, recordOf?]
  | handle u =>
    cases hf : u.isFinal with
    | false => simp [recordOf?_partial g s hf, perform, handle_partial g s hf]
    | true => simp [recordOf?_final g s hf, perform, events_handle_final g s hf]

lemma speaking_perform (s : GateState) (op : GateOperation) :
    (g.perform s op).speaking = op.flag?.getD s.speaking := by
  cases op <;> simp [perform, GateOperation.flag?]

lemma map_operation_turns (s : GateState) (ops : List GateOperation) :
    (g.turns s ops).map GateTurn.operation = ops := by
  induction ops generalizing s with
  | nil => rfl
  | cons op ops ih => rw [turns, List.map_cons, ih]

lemma before_turn {s : GateState} {ops : List GateOperation} {earlier later : List GateTurn}
    {t : GateTurn} (h : g.turns s ops = earlier ++ t :: later) :
    t.before = (earlier.map GateTurn.operation).foldl g.perform s := by
  -- The turns before `t` are those of a front of the operations, so state and front vary together.
  induction ops generalizing s earlier with
  | nil => simp [turns] at h
  | cons op ops ih =>
    rw [turns] at h
    cases earlier with
    | nil =>
      obtain ⟨rfl, -⟩ := List.cons.inj h
      rfl
    | cons u earlier =>
      obtain ⟨rfl, hr⟩ := List.cons.inj h
      rw [ih hr, List.map_cons, List.foldl_cons]

lemma events_foldl (s : GateState) (ops : List GateOperation) :
    (ops.foldl g.perform s).events =
      s.events ++ ((g.turns s ops).filterMap g.recordOf?).flatMap g.kept := by
  induction ops generalizing s with
  | nil => simp [turns]
  | cons op ops ih =>
    have he := g.events_perform ⟨s, op⟩
    rw [List.foldl_cons, ih, he, turns, List.filterMap_cons]
    cases g.recordOf? ⟨s, op⟩ <;> simp

lemma speaking_foldl (s : GateState) (ops : List GateOperation) :
    (ops.foldl g.perform s).speaking =
      (ops.filterMap GateOperation.flag?).getLast?.getD s.speaking := by
  induction ops generalizing s with
  | nil => rfl
  | cons op ops ih =>
    rw [List.foldl_cons, ih, speaking_perform, List.filterMap_cons]
    cases op.flag? with
    | none => rfl
    | some b =>
      rw [List.getLast?_cons]
      rfl

lemma transcripts_records (s : GateState) (ops : List GateOperation) :
    ((g.turns s ops).filterMap g.recordOf?).map Event.transcript =
      ops.filterMap GateOperation.finalText? := by
  calc
    ((g.turns s ops).filterMap g.recordOf?).map Event.transcript
      = (g.turns s ops).filterMap fun t => t.operation.finalText? := by
        simp only [List.map_filterMap, transcript_recordOf?]
    _ = ((g.turns s ops).map GateTurn.operation).filterMap GateOperation.finalText? := by
        rw [List.filterMap_map]
        rfl
    _ = ops.filterMap GateOperation.finalText? := by rw [map_operation_turns]

lemma decision_judge_of_pure (hpure : ∀ p, g.filter.config.policy = some p → p.IsPure)
    {s s' : GateState} (hs : s.speaking = s'.speaking) (text : String) :
    (g.judge s text).decision = (g.judge s' text).decision := by
  -- A decision depends on the flag and on the answer of the policy; the count enters by that alone.
  have ha (state : Option String) :
      g.filter.answer? s.calls text state = g.filter.answer? s'.calls text state := by
    rw [Filter.answer?, Filter.answer?]
    cases hp : g.filter.config.policy with
    | none => rfl
    | some p => simp only [Option.bind_some, hpure p hp s.calls s'.calls]
  have hj (s : GateState) := Filter.judge_eq g.filter s.calls text s.speaking
    (some (speakingLabel s.speaking))
  calc
    (g.judge s text).decision = _ := hj s
    _ = _ := by rw [ha, hs]
    _ = (g.judge s' text).decision := (hj s').symm

lemma allowsInterruption_iff (hpure : ∀ p, g.filter.config.policy = some p → p.IsPure)
    {s s' : GateState} (hs : s.speaking = s'.speaking) (text : String) :
    (g.allowsInterruption s text).1 = true ↔ ¬∃ d, (g.handle s' ⟨text, true⟩).1 = .filtered d := by
  have hd := decision_judge_of_pure g hpure hs text
  rw [g.handle_final s' rfl, Outcome.ofDecision_eq_filtered_iff, ← hd]
  simp [allowsInterruption]

lemma speaking_of_handle (s : GateState) (u : Utterance) (d : Decision) :
    ((g.handle s u).1 = .interrupt d → s.speaking = true) ∧
      ((g.handle s u).1 = .userTurn d → s.speaking = false) := by
  cases hf : u.isFinal with
  | false => simp [handle_partial g s hf]
  | true =>
    rw [g.handle_final s hf]
    exact Outcome.speaking_of_ofDecision

/-- Whatever is done to a gate that keeps its events, it gains one for each final utterance that is
handled, with the decision that came back and the flag as it was, or none at all if its filter does
not emit events. The flag is the one set last; neither handling nor asking changes it, and asking
and partial utterances leave no event. What a gate answers agrees with what it does. -/
theorem operations_keep_accounts (g : Gate) (hsink : g.sink = .memory) (s : GateState)
    (ops : List GateOperation) :
    let turns := g.turns s ops
    let records := turns.filterMap g.recordOf?
    let final := ops.foldl g.perform s
    (turns.map GateTurn.operation = ops ∧
      ∀ earlier t later, turns = earlier ++ t :: later →
        t.before = (earlier.map GateTurn.operation).foldl g.perform s ∧
        t.before.speaking =
          (earlier.filterMap fun t => t.operation.flag?).getLast?.getD s.speaking) ∧
    final.events = s.events ++ (if g.filter.config.emitEvents then records else []) ∧
    records.map Event.transcript = ops.filterMap GateOperation.finalText? ∧
    (∀ t e, g.recordOf? t = some e ↔ ∃ u d, t.operation = .handle u ∧ u.isFinal = true ∧
      (g.handle t.before u).1.decision? = some d ∧
      e = ⟨g.session, u.text, t.before.speaking, d.action, d.reason, d.confidence, d.rule?⟩) ∧
    final.speaking = (ops.filterMap GateOperation.flag?).getLast?.getD s.speaking ∧
    (∀ t text, (g.allowsInterruption t text).2.events = t.events ∧
      (g.allowsInterruption t text).2.speaking = t.speaking) ∧
    (∀ t u, (g.handle t u).2.speaking = t.speaking ∧
      (u.isFinal = false → g.handle t u = (.ignored, t))) ∧
    ((∀ p, g.filter.config.policy = some p → p.IsPure) →
      ∀ t t' text, t.speaking = t'.speaking →
        ((g.allowsInterruption t text).1 = true ↔
          ¬∃ d, (g.handle t' ⟨text, true⟩).1 = .filtered d)) ∧
    ∀ t u d, ((g.handle t u).1 = .interrupt d → t.speaking = true) ∧
      ((g.handle t u).1 = .userTurn d → t.speaking = false) := by
  intro turns records final
  refine ⟨⟨g.map_operation_turns s ops, ?_⟩, ?_, g.transcripts_records s ops,
    g.recordOf?_eq_some_iff, g.speaking_foldl s ops, ?_, ?_, ?_, g.speaking_of_handle⟩
  · intro earlier t later h
    have hb := g.before_turn h
    refine ⟨hb, ?_⟩
    rw [hb, speaking_foldl, List.filterMap_map]
    rfl
  · rw [← g.flatMap_kept hsink]
    exact g.events_foldl s ops
  · intro t text
    exact ⟨rfl, rfl⟩
  · intro t u
    exact ⟨g.speaking_handle t u, fun h => g.handle_partial t h⟩
  · intro hpure t t' text ht
    exact allowsInterruption_iff g hpure ht text

theorem operations_keep_accounts_policy :
    let g : Gate := ⟨"s", .ofValidated { policy := some (.containing "hm") }, .memory⟩
    let s : GateState := { speaking := false }
    let ops : List GateOperation := [.setSpeaking true, .handle ⟨"so", false⟩, .ask "stop",
      .handle ⟨"hm?", true⟩, .setSpeaking false, .handle ⟨"hello", true⟩]
    g.sink = .memory ∧
      (ops.foldl g.perform s).events.map (fun e => (e.transcript, e.agentSpeaking, e.action)) =
        [("hm?", true, .filter), ("hello", false, .allow)] ∧
      (ops.foldl g.perform s).speaking = false ∧
      (∀ p, g.filter.config.policy = some p → p.IsPure) ∧
      (g.allowsInterruption s "stop").1 = true ∧
      ¬∃ d, (g.handle s ⟨"stop", true⟩).1 = .filtered d := by
  intro g s ops
  have hsink : g.sink = .memory := rfl
  have hpure : ∀ p, g.filter.config.policy = some p → p.IsPure := by
    rintro p hp calls calls' text state
    obtain rfl := Option.some.inj hp
    rfl
  have hask : (g.allowsInterruption s "stop").1 = true := by
    simp only [g, s]
    decide +kernel
  obtain ⟨-, hevents, -, -, hflag, -, -, hagree, -⟩ := operations_keep_accounts g hsink s ops
  refine ⟨hsink, ?_, hflag, hpure, hask, (hagree hpure s s "stop" rfl).mp hask⟩
  rw [hevents]
  simp only [g, s, ops]
  decide +kernel

end Gate

end TurnTaking
