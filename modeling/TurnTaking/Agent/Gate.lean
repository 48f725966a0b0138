import TurnTaking.Agent.Event
import TurnTaking.Filter.Engine

/-! All that a run of operations changes of a gate is its `GateState`. The calls of its filter are
taken to return. -/

namespace TurnTaking

structure Gate where
  session : String
  filter : Filter
  sink : Sink

structure GateState where
  speaking : Bool
  calls : Nat := 0
  events : List Event := []
  log : Log := []

inductive Outcome where
  | ignored
  | filtered (d : Decision)
  | interrupt (d : Decision)
  | userTurn (d : Decision)
  deriving Repr

namespace Outcome

def decision? : Outcome → Option Decision
  | ignored => none
  | filtered d | interrupt d | userTurn d => some d

def name : Outcome → String
  | ignored => "ignored"
  | filtered _ => "filtered"
  | interrupt _ => "interrupt"
  | userTurn _ => "user_turn"

def ofDecision (speaking : Bool) (d : Decision) : Outcome :=
  if d.isFiltered then filtered d else if speaking then interrupt d else userTurn d

end Outcome

def speakingLabel (speaking : Bool) : String :=
  if speaking then "speaking" else "listening"

namespace GateState

def setSpeaking (s : GateState) (speaking : Bool) : GateState :=
  if s.speaking = speaking then s
  else { s with speaking, log := s.log ++ [.speakingChanged speaking] }

@[simp] theorem speaking_setSpeaking (s : GateState) (b : Bool) :
    (s.setSpeaking b).speaking = b := by
  by_cases h : s.speaking = b <;> simp [setSpeaking, h]

@[simp] theorem calls_setSpeaking (s : GateState) (b : Bool) :
    (s.setSpeaking b).calls = s.calls := by
  by_cases h : s.speaking = b <;> simp [setSpeaking, h]

@[simp] theorem events_setSpeaking (s : GateState) (b : Bool) :
    (s.setSpeaking b).events = s.events := by
  by_cases h : s.speaking = b <;> simp [setSpeaking, h]

theorem log_setSpeaking (s : GateState) (b : Bool) :
    (s.setSpeaking b).log = s.log ++ if s.speaking = b then [] else [.speakingChanged b] := by
  by_cases h : s.speaking = b <;> simp [setSpeaking, h]

end GateState

namespace Gate

def judge (g : Gate) (s : GateState) (text : String) : Judgement :=
  g.filter.decide s.calls text s.speaking (some (speakingLabel s.speaking))

def afterJudgement (s : GateState) (j : Judgement) : GateState :=
  { s with calls := j.calls, log := s.log ++ j.log }

def kept (g : Gate) (e : Event) : List Event :=
  if g.filter.config.emitEvents && g.sink = .memory then [e] else []

theorem flatMap_kept (g : Gate) (hsink : g.sink = .memory) (es : List Event) :
    es.flatMap g.kept = if g.filter.config.emitEvents then es else [] := by
  cases he : g.filter.config.emitEvents with
  | false => simp [kept, he]
  | true =>
    have hk : g.kept = fun e => [e] := by
      funext e
      simp [kept, he, hsink]
    simp [hk]

def logged (g : Gate) (e : Event) : Log :=
  if g.filter.config.emitEvents && g.sink = .log then [e.logEntry] else []

def verdictEntry (g : Gate) (text : String) (speaking : Bool) (d : Decision) : LogEntry :=
  if d.isFiltered then .transcriptFiltered g.session text d.reason
  else .transcriptAllowed g.session text d.action d.reason speaking

def handle (g : Gate) (s : GateState) (u : Utterance) : Outcome × GateState :=
  if !u.isFinal then (.ignored, s)
  else
    let j := g.judge s u.text
    let d := j.decision
    let e := Event.ofDecision g.session u.text s.speaking d
    let s' := afterJudgement s j
    (.ofDecision s.speaking d,
      { s' with
        events := s'.events ++ g.kept e
        log := s'.log ++ (g.logged e ++ [g.verdictEntry u.text s.speaking d]) })

theorem handle_partial (g : Gate) (s : GateState) {u : Utterance} (h : u.isFinal = false) :
    g.handle s u = (.ignored, s) := by
  simp [handle, h]

theorem handle_final (g : Gate) (s : GateState) {u : Utterance} (h : u.isFinal = true) :
    (g.handle s u).1 = .ofDecision s.speaking (g.judge s u.text).decision := by
  simp [handle, h]

theorem events_handle_final (g : Gate) (s : GateState) {u : Utterance} (h : u.isFinal = true) :
    (g.handle s u).2.events = s.events ++
      g.kept (Event.ofDecision g.session u.text s.speaking (g.judge s u.text).decision) := by
  simp [handle, h, afterJudgement]

@[simp] theorem speaking_handle (g : Gate) (s : GateState) (u : Utterance) :
    (g.handle s u).2.speaking = s.speaking := by
  cases h : u.isFinal <;> simp [handle, h, afterJudgement]

def allowsInterruption (g : Gate) (s : GateState) (text : String) : Bool × GateState :=
  let j := g.judge s text
  (j.decision.action ≠ .filter, afterJudgement s j)

@[simp] theorem speaking_allowsInterruption (g : Gate) (s : GateState) (text : String) :
    (g.allowsInterruption s text).2.speaking = s.speaking := rfl

@[simp] theorem events_allowsInterruption (g : Gate) (s : GateState) (text : String) :
    (g.allowsInterruption s text).2.events = s.events := rfl

end Gate

end TurnTaking
