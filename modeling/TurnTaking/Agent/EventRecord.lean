import TurnTaking.Agent.Event
import TurnTaking.Time.Timestamp

namespace TurnTaking

structure EventRecord where
  id : String
  event : Event
  occurredAt : Timestamp
  deriving DecidableEq, Repr

namespace Timestamp

def decode : Json.Decoder Timestamp
  | .text t => do
    let s ← t.decode
    (read s).mapError fun e => .refused e.message
  | o => o.mismatch "an RFC 3339 formatted date and time string"

end Timestamp

namespace EventRecord

def toJson (r : EventRecord) : Json :=
  .object [("event_id", .text r.id), ("session_id", .text r.event.session),
    ("transcript", .text r.event.transcript), ("agent_speaking", .boolean r.event.agentSpeaking),
    ("action", .text r.event.action.name), ("reason", .text r.event.reason),
    ("confidence", .float .single r.event.confidence), ("rule", .ofText? r.event.rule),
    ("occurred_at", .text r.occurredAt.write)]

structure Draft where
  id : Option String := none
  session : Option String := none
  transcript : Option String := none
  agentSpeaking : Option Bool := none
  action : Option Action := none
  reason : Option String := none
  confidence : Option Binary := none
  rule : Option (Option String) := none
  occurredAt : Option Timestamp := none

open Json in
def record : Record Draft EventRecord where
  title := "struct FilterEvent"
  start := {}
  fields := [
    ⟨"event_id", (·.id.isSome), fun o s => do return { s with id := ← decodeText o }, false⟩,
    ⟨"session_id", (·.session.isSome),
      fun o s => do return { s with session := ← decodeText o }, false⟩,
    ⟨"transcript", (·.transcript.isSome),
      fun o s => do return { s with transcript := ← decodeText o }, false⟩,
    ⟨"agent_speaking", (·.agentSpeaking.isSome),
      fun o s => do return { s with agentSpeaking := ← decodeBoolean o }, false⟩,
    ⟨"action", (·.action.isSome), fun o s => do return { s with action := ← Action.decode o }, false⟩,
    ⟨"reason", (·.reason.isSome), fun o s => do return { s with reason := ← decodeText o }, false⟩,
    ⟨"confidence", (·.confidence.isSome),
      fun o s => do return { s with confidence := ← decodeSingle o }, false⟩,
    ⟨"rule", (·.rule.isSome),
      fun o s => do return { s with rule := some (← decodeOption decodeText o) }, false⟩,
    ⟨"occurred_at", (·.occurredAt.isSome),
      fun o s => do return { s with occurredAt := ← Timestamp.decode o }, false⟩]
  finish s := do
    let id ← required "event_id" s.id
    let session ← required "session_id" s.session
    let transcript ← required "transcript" s.transcript
    let agentSpeaking ← required "agent_speaking" s.agentSpeaking
    let action ← required "action" s.action
    let reason ← required "reason" s.reason
    let confidence ← required "confidence" s.confidence
    let occurredAt ← required "occurred_at" s.occurredAt
    return ⟨id, ⟨session, transcript, agentSpeaking, action, reason, confidence, s.rule.getD none⟩,
      occurredAt⟩

def decode : Json.Decoder EventRecord := record.decode

end EventRecord

end TurnTaking
