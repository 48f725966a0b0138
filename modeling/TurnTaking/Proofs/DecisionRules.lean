import Mathlib.Tactic.Common
import TurnTaking.Filter.Engine

namespace TurnTaking

namespace Filter

def answer? (f : Filter) (calls : Nat) (text : String) (state : Option String) : Option Bool :=
  f.config.policy.bind fun p =>
    match p.reply calls text state with
    | .verdict filters => some filters
    | .error _ | .broken _ | .bursting => none

def ruling (f : Filter) (answer : Option Bool) (text : String) (speaking : Bool) : Rule :=
  if f.config.enabled = false then .disabled
  else if answer.isSome then .customPolicy
  else if speaking = false then .agentNotSpeaking
  else if f.isIgnoreOnly text then .backchanneling
  else if f.hasCommandWords text then .commandWords
  else .defaultAllow

end Filter

namespace Rule

def decision (answer : Option Bool) (text : String) : Rule → Decision
  | disabled => ⟨.allow, "Filtering disabled", .one, [("rule", .text "disabled")]⟩
  | customPolicy =>
    ⟨if answer = some true then .filter else .allow, "Custom filter decision", .one,
      [("custom_filter", .boolean true), ("rule", .text "custom_policy")]⟩
  | agentNotSpeaking =>
    ⟨.allow, "Agent not speaking, processing as user input", .one,
      [("agent_speaking", .boolean false), ("rule", .text "agent_not_speaking")]⟩
  | backchanneling =>
    ⟨.filter, "Backchanneling detected while agent speaking", .one,
      [("agent_speaking", .boolean true), ("ignore_list_only", .boolean true),
        ("rule", .text "backchanneling"), ("transcription", .text text)]⟩
  | commandWords =>
    ⟨.allow, "Command words detected, allowing interruption", .one,
      [("agent_speaking", .boolean true), ("has_command_words", .boolean true),
        ("rule", .text "command_words"), ("transcription", .text text)]⟩
  | defaultAllow => ⟨.allow, "Default allow", .half, [("rule", .text "default_allow")]⟩

def branchKeys : Rule → List String
  | disabled | defaultAllow => []
  | customPolicy => ["custom_filter"]
  | agentNotSpeaking => ["agent_speaking"]
  | backchanneling => ["agent_speaking", "ignore_list_only", "transcription"]
  | commandWords => ["agent_speaking", "has_command_words", "transcription"]

lemma rule?_decision (answer : Option Bool) (text : String) (r : Rule) :
    (r.decision answer text).rule? = some r.name := by
  cases r <;> rfl

lemma get?_rule_decision (answer : Option Bool) (text : String) (r : Rule) :
    (r.decision answer text).metadata.get? "rule" =
      (r.decision answer text).rule?.map Json.text := by
  cases r <;> rfl

lemma confidence_decision (answer : Option Bool) (text : String) (r : Rule) :
    (r.decision answer text).confidence = if r = .defaultAllow then .half else .one := by
  cases r <;> rfl

lemma action_decision_ne_pending (answer : Option Bool) (text : String) (r : Rule) :
    (r.decision answer text).action ≠ .pending := by
  cases r with
  | customPolicy => by_cases h : answer = some true <;> simp [decision, h]
  | _ => simp [decision]

lemma keys_decision (answer : Option Bool) (text : String) (r : Rule) :
    ((r.decision answer text).metadata.map Prod.fst).Perm ("rule" :: r.branchKeys) := by
  cases r <;> simp only [decision, branchKeys, List.map_cons, List.map_nil] <;> decide

lemma transcription_decision (answer : Option Bool) (text : String) (r : Rule) :
    (r.decision answer text).metadata.get? "transcription" =
      if "transcription" ∈ r.branchKeys then some (.text text) else none := by
  cases r <;> rfl

lemma normal_metadata (answer : Option Bool) (text : String) (r : Rule) :
    (Json.object (r.decision answer text).metadata).normal =
      .object (r.decision answer text).metadata := by
  cases r <;>
    simp only [decision, Json.normal, Json.normalMembers, Json.Members.ofList,
      Json.Members.insert, List.foldl_cons, List.foldl_nil, String.reduceLT, String.reduceEq,
      if_false]

end Rule

namespace Filter

lemma policyDecision_eq (filters : Bool) (text : String) :
    policyDecision filters = Rule.customPolicy.decision (some filters) text := by
  cases filters <;> rfl

lemma isIgnoreOnly_of_wordless {f : Filter} {text : String} (h : f.tokens text = []) :
    f.isIgnoreOnly text = false := by
  simp [isIgnoreOnly, Vocabulary.covers, h]

lemma hasCommandWords_iff (f : Filter) (text : String) :
    f.hasCommandWords text = true ↔ f.tokens text ≠ [] ∧ f.isIgnoreOnly text = false := by
  simp [hasCommandWords, isIgnoreOnly]

lemma classes (f : Filter) (text : String) :
    (f.tokens text = [] ∧ f.isIgnoreOnly text = false ∧ f.hasCommandWords text = false) ∨
    (f.tokens text ≠ [] ∧ f.isIgnoreOnly text = true ∧ f.hasCommandWords text = false) ∨
    (f.tokens text ≠ [] ∧ f.isIgnoreOnly text = false ∧ f.hasCommandWords text = true) := by
  by_cases hw : f.tokens text = []
  · refine Or.inl ⟨hw, isIgnoreOnly_of_wordless hw, ?_⟩
    simp [hasCommandWords, hw]
  · cases hi : f.isIgnoreOnly text with
    | false => exact Or.inr (Or.inr ⟨hw, rfl, (hasCommandWords_iff f text).mpr ⟨hw, hi⟩⟩)
    | true =>
      refine Or.inr (Or.inl ⟨hw, rfl, ?_⟩)
      rw [Bool.eq_false_iff, ne_eq, hasCommandWords_iff]
      simp [hi]

lemma builtInDecision_eq {f : Filter} (he : f.config.enabled = true) (text : String)
    (speaking : Bool) :
    f.builtInDecision text speaking = (f.ruling none text speaking).decision none text := by
  cases speaking with
  | false =>
    simp only [builtInDecision, ruling, he]
    rfl
  | true =>
    have hi : f.vocabulary.covers (f.tokens text) = f.isIgnoreOnly text := rfl
    rcases classes f text with ⟨hw, hi', hc⟩ | ⟨hw, hi', hc⟩ | ⟨hw, hi', hc⟩
    · simp only [builtInDecision, ruling, he, hw, hi', hc]
      rfl
    · simp only [builtInDecision, ruling, he, List.isEmpty_eq_false_iff.mpr hw, hi, hi']
      rfl
    · simp only [builtInDecision, ruling, he, List.isEmpty_eq_false_iff.mpr hw, hi, hi', hc]
      rfl

lemma answer?_of_no_policy {f : Filter} (hp : f.config.policy = none) (calls : Nat) (text : String)
    (state : Option String) : f.answer? calls text state = none := by
  simp [answer?, hp]

lemma judge_eq (f : Filter) (calls : Nat) (text : String) (speaking : Bool)
    (state : Option String) :
    (f.judge calls text speaking state).decision =
      (f.ruling (f.answer? calls text state) text speaking).decision
        (f.answer? calls text state) text := by
  cases he : f.config.enabled with
  | false =>
    simp only [judge, ruling, he]
    rfl
  | true =>
    cases hp : f.config.policy with
    | none =>
      rw [answer?_of_no_policy hp]
      simp [judge, he, hp, builtInDecision_eq he]
    | some p =>
      cases hr : p.reply calls text state with
      | verdict filters =>
        simp [judge, answer?, ruling, he, hp, hr, PolicyReply.outcome,
          policyDecision_eq filters text]
      | error e =>
        simp [judge, answer?, he, hp, hr, PolicyReply.outcome, builtInDecision_eq he]
      | broken payload =>
        cases payload <;>
          simp [judge, answer?, he, hp, hr, PolicyReply.outcome, builtInDecision_eq he]
      | bursting =>
        simp [judge, answer?, he, hp, hr, PolicyReply.outcome, builtInDecision_eq he]

lemma decision_of_no_policy {f : Filter} (hp : f.config.policy = none) (calls : Nat)
    (text : String) (speaking : Bool) (state : Option String) :
    (f.decide calls text speaking state).decision =
      (f.ruling none text speaking).decision none text := by
  rw [← answer?_of_no_policy hp calls text state]
  exact judge_eq f calls text speaking state

lemma filters_iff (f : Filter) (answer : Option Bool) (text : String) (speaking : Bool) :
    ((f.ruling answer text speaking).decision answer text).action = .filter ↔
      f.config.enabled = true ∧
        (answer = some true ∨ answer = none ∧ speaking = true ∧ f.isIgnoreOnly text = true) := by
  cases he : f.config.enabled with
  | false => simp [ruling, he, Rule.decision]
  | true =>
    cases answer with
    | some filters => cases filters <;> simp [ruling, he, Rule.decision]
    | none =>
      cases speaking with
      | false => simp [ruling, he, Rule.decision]
      | true =>
        cases hi : f.isIgnoreOnly text with
        | true => simp [ruling, he, hi, Rule.decision]
        | false =>
          cases hc : f.hasCommandWords text <;> simp [ruling, he, hi, hc, Rule.decision]

end Filter

end TurnTaking
