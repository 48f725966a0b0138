import TurnTaking.Json.Decode

namespace TurnTaking

structure Transcript where
  text : String
  agentSpeaking : Bool
  agentState : Option String := none
  deriving DecidableEq, Repr

namespace Transcript

def toJson (t : Transcript) : Json :=
  .object [("text", .text t.text), ("agent_speaking", .boolean t.agentSpeaking),
    ("agent_state", .ofText? t.agentState)]

structure Draft where
  text : Option String := none
  agentSpeaking : Option Bool := none
  agentState : Option (Option String) := none

open Json in
def record : Record Draft Transcript where
  title := "struct Transcript"
  start := {}
  fields := [
    ⟨"text", (·.text.isSome), fun o s => do return { s with text := ← decodeText o }, false⟩,
    ⟨"agent_speaking", (·.agentSpeaking.isSome),
      fun o s => do return { s with agentSpeaking := ← decodeBoolean o }, false⟩,
    ⟨"agent_state", (·.agentState.isSome),
      fun o s => do return { s with agentState := some (← decodeOption decodeText o) }, true⟩]
  finish s := do
    let text ← required "text" s.text
    let agentSpeaking ← required "agent_speaking" s.agentSpeaking
    return ⟨text, agentSpeaking, s.agentState.getD none⟩

def decode : Json.Decoder Transcript := record.decode

end Transcript

structure Utterance where
  text : String
  isFinal : Bool := true
  deriving DecidableEq, Repr

namespace Utterance

def toJson (u : Utterance) : Json :=
  .object [("text", .text u.text), ("is_final", .boolean u.isFinal)]

structure Draft where
  text : Option String := none
  isFinal : Option Bool := none

open Json in
def record : Record Draft Utterance where
  title := "struct TranscriptEvent"
  start := {}
  fields := [
    ⟨"text", (·.text.isSome), fun o s => do return { s with text := ← decodeText o }, false⟩,
    ⟨"is_final", (·.isFinal.isSome),
      fun o s => do return { s with isFinal := ← decodeBoolean o }, true⟩]
  finish s := do
    let text ← required "text" s.text
    return ⟨text, s.isFinal.getD true⟩

def decode : Json.Decoder Utterance := record.decode

end Utterance

end TurnTaking
