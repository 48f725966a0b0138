import TurnTaking.Filter.Config
import TurnTaking.Log.Entry
import TurnTaking.Filter.Transcript
import TurnTaking.Lexicon.Vocabulary

/-! A policy may count its calls, so a decision takes the number of calls so far and returns it. -/

namespace TurnTaking

structure Filter where
  config : FilterConfig
  vocabulary : Vocabulary

structure Judgement where
  decision : Decision
  calls : Nat
  log : Log

namespace Filter

def ofValidated (c : FilterConfig) : Filter :=
  ⟨c, .compile c.ignoreList c.caseSensitive⟩

def readyLog (f : Filter) : Log :=
  [.filterReady f.config.enabled f.vocabulary.size f.config.caseSensitive f.config.policy.isSome]

def build (c : FilterConfig) : Except FilterError Filter :=
  c.validated.map ofValidated

def ofParts (ignoreList : Option (List String)) (policy : Option Policy)
    (enabled caseSensitive : Bool) : Except FilterError Filter :=
  build
    { enabled
      ignoreList := (ignoreList.map IgnoreList.mk).getD .builtIn
      caseSensitive
      policy }

def builtIn : Filter :=
  ofValidated { ({} : FilterConfig) with ignoreList := IgnoreList.builtIn.foldCase }

def isEnabled (f : Filter) : Bool := f.config.enabled

def tokens (f : Filter) (text : String) : List Token :=
  tokenize f.config.caseSensitive text

def isIgnoreOnly (f : Filter) (text : String) : Bool :=
  f.vocabulary.covers (f.tokens text)

def hasCommandWords (f : Filter) (text : String) : Bool :=
  !(f.tokens text).isEmpty && !f.vocabulary.covers (f.tokens text)

def disabledDecision : Decision :=
  (Decision.allow "Filtering disabled").withRule .disabled

def policyDecision (filters : Bool) : Decision :=
  ((Decision.of (if filters then .filter else .allow) "Custom filter decision").withMetadata
    "custom_filter" (.boolean true)).withRule .customPolicy

def silentDecision : Decision :=
  ((Decision.allow "Agent not speaking, processing as user input").withMetadata
    "agent_speaking" (.boolean false)).withRule .agentNotSpeaking

def wordlessDecision : Decision :=
  ((Decision.allow "Default allow").withConfidence .half).withRule .defaultAllow

def backchannelDecision (text : String) : Decision :=
  ((((Decision.filter "Backchanneling detected while agent speaking").withMetadata
    "agent_speaking" (.boolean true)).withMetadata "ignore_list_only" (.boolean true)).withMetadata
    "transcription" (.text text)).withRule .backchanneling

def commandDecision (text : String) : Decision :=
  ((((Decision.allow "Command words detected, allowing interruption").withMetadata
    "agent_speaking" (.boolean true)).withMetadata "has_command_words" (.boolean true)).withMetadata
    "transcription" (.text text)).withRule .commandWords

def builtInDecision (f : Filter) (text : String) (agentSpeaking : Bool) : Decision :=
  if !agentSpeaking then silentDecision
  else if (f.tokens text).isEmpty then wordlessDecision
  else if f.vocabulary.covers (f.tokens text) then backchannelDecision text
  else commandDecision text

def judge (f : Filter) (calls : Nat) (text : String) (agentSpeaking : Bool)
    (agentState : Option String) : Judgement :=
  if !f.config.enabled then ⟨disabledDecision, calls, []⟩
  else
    match f.config.policy with
    | none => ⟨f.builtInDecision text agentSpeaking, calls, []⟩
    | some policy =>
      match (policy.reply calls text agentState).outcome with
      | .ok filters => ⟨policyDecision filters, calls + 1, []⟩
      | .error e =>
        ⟨f.builtInDecision text agentSpeaking, calls + 1, [.policyFailed e text]⟩

/-- The judgement of a call, if the call returns. -/
def decide (f : Filter) (calls : Nat) (text : String) (agentSpeaking : Bool)
    (agentState : Option String) : Judgement :=
  let j := f.judge calls text agentSpeaking agentState
  let d := j.decision
  { j with log := j.log ++ [.decided d.action d.rule? agentSpeaking d.confidence] }

def evaluate (f : Filter) (calls : Nat) (t : Transcript) : Judgement :=
  f.decide calls t.text t.agentSpeaking t.agentState

/-- Whether a call returns: what a policy leaves when it breaks off is dropped unguarded. -/
def returns (f : Filter) (calls : Nat) (text : String) (agentState : Option String) : Bool :=
  match f.config.policy with
  | none => true
  | some policy => !f.config.enabled || policy.reply calls text agentState != .bursting

def evaluate? (f : Filter) (calls : Nat) (t : Transcript) : Option Judgement :=
  if f.returns calls t.text t.agentState then some (f.evaluate calls t) else none

def inspect (f : Filter) : String :=
  "InterruptionFilter \x7b config: " ++ f.config.inspect ++ ", vocabulary_size: " ++
    toString f.vocabulary.size ++ " \x7d"

end Filter

end TurnTaking
