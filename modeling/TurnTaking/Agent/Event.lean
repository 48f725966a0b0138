import TurnTaking.Log.Entry

namespace TurnTaking

structure Event where
  session : String
  transcript : String
  agentSpeaking : Bool
  action : Action
  reason : String
  confidence : Binary
  rule : Option String
  deriving DecidableEq, Repr

namespace Event

def ofDecision (session transcript : String) (agentSpeaking : Bool) (d : Decision) : Event :=
  ⟨session, transcript, agentSpeaking, d.action, d.reason, d.confidence, d.rule?⟩

def logEntry (e : Event) : LogEntry :=
  .recorded e.session e.action e.rule e.confidence e.agentSpeaking e.reason

def toJson (e : Event) : Json :=
  .object [("session_id", .text e.session), ("transcript", .text e.transcript),
    ("agent_speaking", .boolean e.agentSpeaking), ("action", .text e.action.name),
    ("reason", .text e.reason), ("confidence", .float .double e.confidence),
    ("rule", .ofText? e.rule)]

end Event

inductive Sink where
  | none
  | memory
  | log
  deriving DecidableEq, Repr

end TurnTaking
