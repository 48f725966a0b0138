import TurnTaking.Agent.Gate

/-!
Events in order of arrival, judged by a gate and acted on by a consumer, up to the first failure.
-/

namespace TurnTaking

inductive SessionEvent where
  | speechStarted
  | speechEnded
  | utterance (u : Utterance)
  deriving DecidableEq, Repr

inductive Hook where
  | interrupt
  | filtered
  | userTurn
  deriving DecidableEq, Repr

namespace Hook

def name : Hook → String
  | interrupt => "interrupt"
  | filtered => "filtered"
  | userTurn => "user_turn"

end Hook

structure HookCall where
  hook : Hook
  transcript : String
  decision : Decision
  speaking : Bool
  deriving Repr

/-- What a hook does: it sets the flag to these values in turn, and fails if it has a failure. -/
structure Reaction where
  writes : List Bool := []
  failure : Option String := none
  deriving DecidableEq, Repr

structure Consumer where
  /-- The reaction to a call after these calls, the latest last. -/
  react : List HookCall → HookCall → Reaction
  hearsFiltered : Bool := true

structure Summary where
  ignored : Nat := 0
  filtered : Nat := 0
  interrupts : Nat := 0
  userTurns : Nat := 0
  deriving DecidableEq, Repr

namespace Summary

def count (s : Summary) : Outcome → Summary
  | .ignored => { s with ignored := s.ignored + 1 }
  | .filtered _ => { s with filtered := s.filtered + 1 }
  | .interrupt _ => { s with interrupts := s.interrupts + 1 }
  | .userTurn _ => { s with userTurns := s.userTurns + 1 }

def toJson (s : Summary) : Json :=
  .object [("ignored", .ofNat s.ignored), ("filtered", .ofNat s.filtered),
    ("interrupts", .ofNat s.interrupts), ("user_turns", .ofNat s.userTurns)]

end Summary

structure SessionState where
  gate : GateState
  summary : Summary := {}
  calls : List HookCall := []

namespace SessionState

def setSpeaking (s : SessionState) (speaking : Bool) : SessionState :=
  { s with gate := s.gate.setSpeaking speaking }

@[simp] theorem gate_setSpeaking (s : SessionState) (b : Bool) :
    (s.setSpeaking b).gate = s.gate.setSpeaking b := rfl

@[simp] theorem calls_setSpeaking (s : SessionState) (b : Bool) :
    (s.setSpeaking b).calls = s.calls := rfl

def call (s : SessionState) (c : Consumer) (hook : Hook) (transcript : String) (d : Decision) :
    SessionState × Option String :=
  let call : HookCall := ⟨hook, transcript, d, s.gate.speaking⟩
  let reaction := c.react s.calls call
  let heard := { s with calls := s.calls ++ [call] }
  (reaction.writes.foldl setSpeaking heard, reaction.failure)

def dispatch (s : SessionState) (c : Consumer) (transcript : String) :
    Outcome → SessionState × Option String
  | .ignored => (s, none)
  | .filtered d => if c.hearsFiltered then s.call c .filtered transcript d else (s, none)
  | .interrupt d => (s.setSpeaking false).call c .interrupt transcript d
  | .userTurn d => s.call c .userTurn transcript d

end SessionState

namespace Gate

def step (g : Gate) (c : Consumer) (s : SessionState) : SessionEvent → SessionState × Option String
  | .speechStarted => (s.setSpeaking true, none)
  | .speechEnded => (s.setSpeaking false, none)
  | .utterance u =>
    let (outcome, gate) := g.handle s.gate u
    { s with gate, summary := s.summary.count outcome }.dispatch c u.text outcome

def steps (g : Gate) (c : Consumer) (s : SessionState) :
    List SessionEvent → SessionState × Option String
  | [] => (s, none)
  | e :: es =>
    match g.step c s e with
    | (s, none) => g.steps c s es
    | (s, some failure) => (s, some failure)

def closing (g : Gate) (s : Summary) : LogEntry :=
  .sessionClosed g.session s.filtered s.interrupts s.userTurns

def run (g : Gate) (c : Consumer) (speaking : Bool) (es : List SessionEvent) :
    Except String Summary × SessionState :=
  match g.steps c { gate := { speaking } } es with
  | (s, some failure) => (.error failure, s)
  | (s, none) =>
    (.ok s.summary, { s with gate := { s.gate with log := s.gate.log ++ [g.closing s.summary] } })

end Gate

/-- A planned failure of a hook; without a message it is only used up. -/
structure PlannedFailure where
  hook : Hook
  message : Option String
  deriving DecidableEq, Repr

structure Plan where
  writes : Hook → Option Bool
  failures : List PlannedFailure

namespace Plan

def remaining (hook : Hook) : List PlannedFailure → List PlannedFailure
  | [] => []
  | f :: fs => if f.hook = hook then fs else f :: fs

def due (hook : Hook) : List PlannedFailure → Option String
  | [] => none
  | f :: _ => if f.hook = hook then f.message else none

def consumer (p : Plan) (hearsFiltered : Bool) : Consumer where
  react past c :=
    let left := past.foldl (fun fs earlier => remaining earlier.hook fs) p.failures
    ⟨(p.writes c.hook).toList, due c.hook left⟩
  hearsFiltered := hearsFiltered

end Plan

end TurnTaking
