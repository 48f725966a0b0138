import TurnTaking.Json.Decode

/-! Metadata is a map in key order; its entry `rule` names the rule that decided. -/

namespace TurnTaking

inductive Action where
  | allow
  | filter
  | pending
  deriving DecidableEq, Repr

namespace Action

def name : Action → String
  | allow => "allow"
  | filter => "filter"
  | pending => "pending"

def all : List Action := [allow, filter, pending]

def decode : Json.Decoder Action := Json.decodeVariant (all.map fun a => (a.name, a))

end Action

inductive Rule where
  | disabled
  | customPolicy
  | agentNotSpeaking
  | backchanneling
  | commandWords
  | defaultAllow
  deriving DecidableEq, Repr

namespace Rule

def name : Rule → String
  | disabled => "disabled"
  | customPolicy => "custom_policy"
  | agentNotSpeaking => "agent_not_speaking"
  | backchanneling => "backchanneling"
  | commandWords => "command_words"
  | defaultAllow => "default_allow"

def all : List Rule :=
  [disabled, customPolicy, agentNotSpeaking, backchanneling, commandWords, defaultAllow]

def decode : Json.Decoder Rule := Json.decodeVariant (all.map fun r => (r.name, r))

end Rule

structure Decision where
  action : Action
  reason : String
  confidence : Binary
  metadata : Json.Members
  deriving Repr

namespace Decision

def of (action : Action) (reason : String) : Decision :=
  ⟨action, reason, .one, []⟩

def allow (reason : String) : Decision := of .allow reason

def filter (reason : String) : Decision := of .filter reason

def withConfidence (d : Decision) (x : Binary) : Decision :=
  { d with confidence := if x.isNan then .zero else Binary.clamp .zero .one x }

def withMetadata (d : Decision) (key : String) (value : Json) : Decision :=
  { d with metadata := d.metadata.insert key value }

def withRule (d : Decision) (r : Rule) : Decision :=
  d.withMetadata "rule" (.text r.name)

def rule? (d : Decision) : Option String :=
  (d.metadata.get? "rule").bind Json.asText?

def isFiltered (d : Decision) : Bool :=
  d.action = .filter

def toJson (d : Decision) : Json :=
  .object [("action", .text d.action.name), ("reason", .text d.reason),
    ("confidence", .float .single d.confidence), ("metadata", .object d.metadata)]

structure Draft where
  action : Option Action := none
  reason : Option String := none
  confidence : Option Binary := none
  metadata : Option Json.Members := none

open Json in
def record : Record Draft Decision where
  title := "struct FilterDecision"
  start := {}
  fields := [
    ⟨"action", (·.action.isSome), fun o s => do return { s with action := ← Action.decode o }, false⟩,
    ⟨"reason", (·.reason.isSome), fun o s => do return { s with reason := ← decodeText o }, false⟩,
    ⟨"confidence", (·.confidence.isSome),
      fun o s => do return { s with confidence := ← decodeSingle o }, false⟩,
    ⟨"metadata", (·.metadata.isSome),
      fun o s => do return { s with metadata := ← decodeMap (depthLimit - 1) o }, false⟩]
  finish s := do
    let action ← required "action" s.action
    let reason ← required "reason" s.reason
    let confidence ← required "confidence" s.confidence
    let metadata ← required "metadata" s.metadata
    return ⟨action, reason, confidence, metadata⟩

def decode : Json.Decoder Decision := record.decode

end Decision

end TurnTaking
