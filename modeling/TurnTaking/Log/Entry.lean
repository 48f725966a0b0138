import TurnTaking.Filter.Decision
import TurnTaking.Filter.Policy
import TurnTaking.Log.Level

namespace TurnTaking

inductive LogEntry where
  | filterReady (enabled : Bool) (vocabulary : Nat) (caseSensitive customPolicy : Bool)
  | decided (action : Action) (rule : Option String) (agentSpeaking : Bool) (confidence : Binary)
  | policyFailed (error : PolicyError) (transcript : String)
  | recorded (session : String) (action : Action) (rule : Option String) (confidence : Binary)
      (agentSpeaking : Bool) (reason : String)
  | speakingChanged (speaking : Bool)
  | transcriptFiltered (session transcript reason : String)
  | transcriptAllowed (session transcript : String) (action : Action) (reason : String)
      (agentSpeaking : Bool)
  | sessionClosed (session : String) (filtered interrupts userTurns : Nat)
  deriving DecidableEq, Repr

abbrev Log := List LogEntry

namespace LogEntry

def level : LogEntry → Level
  | decided .. => .trace
  | filterReady .. | speakingChanged .. => .debug
  | recorded .. | transcriptFiltered .. | transcriptAllowed .. | sessionClosed .. => .info
  | policyFailed .. => .error

def ruleName (rule : Option String) : Json := .text (rule.getD "unknown")

def fields : LogEntry → Json.Members
  | filterReady enabled vocabulary caseSensitive customPolicy =>
    [("message", .text "interruption filter initialized"), ("event_name", .text "filter.initialized"),
      ("enabled", .boolean enabled), ("ignore_list_size", .ofNat vocabulary),
      ("case_sensitive", .boolean caseSensitive), ("custom_policy", .boolean customPolicy)]
  | decided action rule agentSpeaking confidence =>
    [("message", .text "interruption filter decision"), ("event_name", .text "filter.decision"),
      ("action", .text action.name), ("rule", ruleName rule),
      ("agent_speaking", .boolean agentSpeaking), ("confidence", .float .double confidence)]
  | policyFailed error transcript =>
    [("message", .text "custom filter failed, falling back to built-in rules"),
      ("event_name", .text "filter.custom_policy_failed"), ("error", .text error.message),
      ("transcription", .text transcript)]
  | recorded session action rule confidence agentSpeaking reason =>
    [("message", .text reason), ("event_name", .text "filter.event"), ("session_id", .text session),
      ("action", .text action.name), ("rule", ruleName rule), ("confidence", .float .double confidence),
      ("agent_speaking", .boolean agentSpeaking)]
  | speakingChanged speaking =>
    [("message", .text "agent speaking state changed"), ("event_name", .text "agent.speaking_state"),
      ("speaking", .boolean speaking)]
  | transcriptFiltered session transcript reason =>
    [("message", .text "filtered backchanneling"), ("event_name", .text "agent.transcript_filtered"),
      ("session_id", .text session), ("transcript", .text transcript), ("reason", .text reason)]
  | transcriptAllowed session transcript action reason agentSpeaking =>
    [("message", .text "allowing input"), ("event_name", .text "agent.transcript_allowed"),
      ("session_id", .text session), ("transcript", .text transcript), ("action", .text action.name),
      ("reason", .text reason), ("agent_speaking", .boolean agentSpeaking)]
  | sessionClosed session filtered interrupts userTurns =>
    [("message", .text "session event stream closed"), ("event_name", .text "agent.session_closed"),
      ("session_id", .text session), ("filtered", .ofNat filtered), ("interrupts", .ofNat interrupts),
      ("user_turns", .ofNat userTurns)]

def toJson (e : LogEntry) : Json :=
  .object [("level", .text (String.ofList (e.level.name.toList.map Char.toUpper))),
    ("fields", .object e.fields)]

end LogEntry

def Log.upTo (limit : Level) (log : Log) : Log :=
  List.filter (fun e => decide (e.level.verbosity ≤ limit.verbosity)) log

end TurnTaking
