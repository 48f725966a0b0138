import TurnTaking.Agent.Event
import TurnTaking.Report.Payload

/-!
Blank lines are passed over and partial records are counted; the first line that is no record ends
the replay.
-/

namespace TurnTaking

structure SessionRecord where
  transcript : Transcript
  isFinal : Bool := true
  deriving DecidableEq, Repr

namespace SessionRecord

structure Draft where
  text : Option String := none
  agentSpeaking : Option Bool := none
  agentState : Option (Option String) := none
  isFinal : Option Bool := none

open Json in
def record : Record Draft SessionRecord where
  title := "struct ReplayLine"
  start := {}
  fields := [
    ⟨"text", (·.text.isSome), fun o s => do return { s with text := ← decodeText o }, false⟩,
    ⟨"agent_speaking", (·.agentSpeaking.isSome),
      fun o s => do return { s with agentSpeaking := ← decodeBoolean o }, false⟩,
    ⟨"agent_state", (·.agentState.isSome),
      fun o s => do return { s with agentState := some (← decodeOption decodeText o) }, true⟩,
    ⟨"is_final", (·.isFinal.isSome),
      fun o s => do return { s with isFinal := ← decodeBoolean o }, true⟩]
  finish s := do
    let text ← required "text" s.text
    let agentSpeaking ← required "agent_speaking" s.agentSpeaking
    return ⟨⟨text, agentSpeaking, s.agentState.getD none⟩, s.isFinal.getD true⟩

def decode : Json.Decoder SessionRecord := record.decode

def read : String → Except Json.Fault SessionRecord := Json.readWith decode

end SessionRecord

structure Replayed where
  line : Nat
  transcript : Transcript
  decision : Decision
  deriving Repr

namespace Replayed

def toJson (r : Replayed) : Json :=
  .normal (.object [("line", .ofNat r.line), ("transcript", r.transcript.toJson),
    ("decision", r.decision.toJson)])

end Replayed

structure BadLine where
  number : Nat
  text : String
  fault : Json.Fault

namespace BadLine

def message (w : World) (b : BadLine) : String :=
  "line " ++ toString b.number ++ ": not a transcript record: " ++ b.fault.message ++ w.place b.text

end BadLine

structure Replay where
  decided : List Replayed := []
  skippedPartial : Nat := 0
  log : Log := []
  failure : Option BadLine := none

namespace Replay

def recordLog (f : Filter) (session : String) (t : Transcript) (d : Decision) : Log :=
  if f.config.emitEvents then [(Event.ofDecision session t.text t.agentSpeaking d).logEntry] else []

def ofLines (f : Filter) (session : String) (n : Nat) : List String → Replay
  | [] => {}
  | line :: lines =>
    if Text.isBlankText line then ofLines f session (n + 1) lines
    else
      match SessionRecord.read line with
      | .error fault => { failure := some ⟨n, line, fault⟩ }
      | .ok r =>
        let rest := ofLines f session (n + 1) lines
        if r.isFinal then
          let j := f.evaluate 0 r.transcript
          { rest with
            decided := ⟨n, r.transcript, j.decision⟩ :: rest.decided
            log := j.log ++ (recordLog f session r.transcript j.decision ++ rest.log) }
        else { rest with skippedPartial := rest.skippedPartial + 1 }

def count (r : Replay) (a : Action) : Nat :=
  (r.decided.filter fun d => d.decision.action = a).length

def summary (r : Replay) : Json :=
  .normal (.object [("decided", .ofNat r.decided.length),
    ("skipped_partial", .ofNat r.skippedPartial), ("allowed", .ofNat (r.count .allow)),
    ("filtered", .ofNat (r.count .filter)), ("pending", .ofNat (r.count .pending))])

def message (r : Replay) : String :=
  "replayed " ++ toString r.decided.length ++ " transcripts (" ++ toString (r.count .filter) ++
    " filtered, " ++ toString (r.count .allow) ++ " allowed, " ++ toString r.skippedPartial ++
    " partial skipped)"

def output (r : Replay) : List String :=
  r.decided.map (fun d => d.toJson.toLine) ++
    [(Report.successPayload "replay" r.message r.summary).toLine]

end Replay

namespace Report

def replay (w : World) (o : LoadOptions) (path : String) : Report :=
  match Filter.load w o with
  | .error e => failure "replay" (.ofConfig e) []
  | .ok f =>
    match w.contents path with
    | .error fault =>
      failure "replay"
        (.input ("could not read replay file \x60" ++ path ++ "\x60: " ++ fault.message)) f.readyLog
    | .ok text =>
      let r := Replay.ofLines f path 1 (Text.lines text)
      let log := f.readyLog ++ r.log
      match r.failure with
      | some bad => failure "replay" (.input (bad.message w)) log
      | none => ⟨0, String.intercalate "\n" r.output, log⟩

end Report

end TurnTaking
