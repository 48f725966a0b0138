import TurnTaking.Proofs.IgnorePhrases

namespace TurnTaking

def Decision.entry (d : Decision) (speaking : Bool) : LogEntry :=
  .decided d.action d.rule? speaking d.confidence

lemma PolicyReply.outcome_of_no_verdict {r : PolicyReply} (h : ∀ filters, r ≠ .verdict filters) :
    ∃ e, r.outcome = .error e := by
  cases r with
  | verdict filters => exact absurd rfl (h filters)
  | error e => exact ⟨e, rfl⟩
  | broken payload => cases payload <;> exact ⟨_, rfl⟩
  | bursting => exact ⟨_, rfl⟩

namespace Filter

def withoutPolicy (f : Filter) : Filter :=
  { f with config := { f.config with policy := none } }

/-- Calls in a row, when the policy has been asked `calls` times before. One that does not return
has asked it all the same. -/
def course (f : Filter) (calls : Nat) : List Transcript → List (Option Judgement)
  | [] => []
  | t :: ts => f.evaluate? calls t :: f.course (f.evaluate calls t).calls ts

def asks (f : Filter) : Nat :=
  if f.config.enabled && f.config.policy.isSome then 1 else 0

lemma build_withoutPolicy {c : FilterConfig} {f : Filter} (h : build c = .ok f) :
    build { c with policy := none } = .ok f.withoutPolicy := by
  obtain ⟨he, rfl⟩ := build_ok_iff.mp h
  refine build_ok_iff.mpr ⟨he, ?_⟩
  cases hc : c.caseSensitive <;> simp [withoutPolicy, ofValidated, FilterConfig.folded, hc]

variable {f : Filter} {p : Policy}

lemma evaluate_of_disabled (he : f.config.enabled = false) (calls : Nat) (t : Transcript) :
    f.evaluate calls t = ⟨disabledDecision, calls, [disabledDecision.entry t.agentSpeaking]⟩ := by
  simp [evaluate, decide, judge, he, Decision.entry]

lemma evaluate_of_no_policy (he : f.config.enabled = true) (hp : f.config.policy = none)
    (calls : Nat) (t : Transcript) :
    f.evaluate calls t =
      ⟨f.builtInDecision t.text t.agentSpeaking, calls,
        [(f.builtInDecision t.text t.agentSpeaking).entry t.agentSpeaking]⟩ := by
  simp [evaluate, decide, judge, he, hp, Decision.entry]

lemma evaluate_of_verdict (he : f.config.enabled = true) (hp : f.config.policy = some p)
    {calls : Nat} {t : Transcript} {filters : Bool}
    (hr : p.reply calls t.text t.agentState = .verdict filters) :
    f.evaluate calls t =
      ⟨policyDecision filters, calls + 1, [(policyDecision filters).entry t.agentSpeaking]⟩ := by
  simp [evaluate, decide, judge, he, hp, hr, PolicyReply.outcome, Decision.entry]

lemma evaluate_of_failure (he : f.config.enabled = true) (hp : f.config.policy = some p)
    {calls : Nat} {t : Transcript} {e : PolicyError}
    (hr : (p.reply calls t.text t.agentState).outcome = .error e) :
    f.evaluate calls t =
      ⟨f.builtInDecision t.text t.agentSpeaking, calls + 1,
        [.policyFailed e t.text,
          (f.builtInDecision t.text t.agentSpeaking).entry t.agentSpeaking]⟩ := by
  simp [evaluate, decide, judge, he, hp, hr, Decision.entry]

lemma calls_evaluate (f : Filter) (calls : Nat) (t : Transcript) :
    (f.evaluate calls t).calls = calls + f.asks := by
  cases he : f.config.enabled with
  | false =>
    rw [evaluate_of_disabled he]
    simp [asks, he]
  | true =>
    cases hp : f.config.policy with
    | none =>
      rw [evaluate_of_no_policy he hp]
      simp [asks, hp]
    | some p =>
      cases hr : (p.reply calls t.text t.agentState).outcome with
      | error e =>
        rw [evaluate_of_failure he hp hr]
        simp [asks, he, hp]
      | ok filters => simp [evaluate, decide, judge, asks, he, hp, hr]

lemma evaluate?_of_disabled (he : f.config.enabled = false) (calls : Nat) (t : Transcript) :
    f.evaluate? calls t = some (f.evaluate calls t) := by
  cases hp : f.config.policy <;> simp [evaluate?, returns, he, hp]

lemma evaluate?_of_no_policy (hp : f.config.policy = none) (calls : Nat) (t : Transcript) :
    f.evaluate? calls t = some (f.evaluate calls t) := by
  simp [evaluate?, returns, hp]

lemma evaluate?_of_policy (he : f.config.enabled = true) (hp : f.config.policy = some p)
    (calls : Nat) (t : Transcript) :
    f.evaluate? calls t =
      if p.reply calls t.text t.agentState = .bursting then none
      else some (f.evaluate calls t) := by
  by_cases hr : p.reply calls t.text t.agentState = .bursting <;>
    simp [evaluate?, returns, he, hp, hr]

lemma evaluate?_of_verdict (he : f.config.enabled = true) (hp : f.config.policy = some p)
    {calls : Nat} {t : Transcript} {filters : Bool}
    (hr : p.reply calls t.text t.agentState = .verdict filters) :
    f.evaluate? calls t =
      some ⟨policyDecision filters, calls + 1,
        [(policyDecision filters).entry t.agentSpeaking]⟩ := by
  rw [evaluate?_of_policy he hp, if_neg (by simp [hr]), evaluate_of_verdict he hp hr]

lemma length_course (f : Filter) (calls : Nat) (ts : List Transcript) :
    (f.course calls ts).length = ts.length := by
  induction ts generalizing calls with
  | nil => rfl
  | cons t ts ih => rw [course, List.length_cons, ih, List.length_cons]

lemma getElem?_course (f : Filter) (calls : Nat) (ts : List Transcript) (n : Nat) :
    (f.course calls ts)[n]? = ts[n]?.map (f.evaluate? (calls + n * f.asks)) := by
  induction ts generalizing calls n with
  | nil => rfl
  | cons t ts ih =>
    cases n with
    | zero => simp [course]
    | succ n =>
      have hn : calls + f.asks + n * f.asks = calls + (n + 1) * f.asks := by
        rw [Nat.succ_mul]
        omega
      rw [course, List.getElem?_cons_succ, ih, calls_evaluate, hn, List.getElem?_cons_succ]

lemma decision_withoutPolicy (he : f.config.enabled = true) (calls : Nat) (t : Transcript) :
    (f.withoutPolicy.evaluate calls t).decision = f.builtInDecision t.text t.agentSpeaking := by
  have hp : f.withoutPolicy.config.policy = none := rfl
  rw [evaluate_of_no_policy (f := f.withoutPolicy) he hp]
  rfl

/-- A policy that fails or breaks off leaves the decision to the built-in rules and an error in the
log, and the decisions after it as they would have been, unless dropping what it left breaks off as
well: that is the one way in which a call does not return. -/
theorem course_contains_failures {f : Filter} {p : Policy} (hp : f.config.policy = some p)
    (calls : Nat) (ts : List Transcript) :
    let js := f.course calls ts
    (∀ c, build c = .ok f → build { c with policy := none } = .ok f.withoutPolicy) ∧
    js.length = ts.length ∧
    ∀ n t, ts[n]? = some t → ∃ call plain, js[n]? = some call ∧
      f.withoutPolicy.evaluate? 0 t = some plain ∧
      (f.config.enabled = false → ∃ j, call = some j ∧
        j.calls = calls ∧ j.decision = plain.decision ∧
          j.log = [j.decision.entry t.agentSpeaking]) ∧
      (f.config.enabled = true →
        let reply := p.reply (calls + n) t.text t.agentState
        (call = none ↔ reply = .bursting) ∧
        ∀ j, call = some j → j.calls = calls + (n + 1) ∧
          (∀ filters, reply = .verdict filters →
            j.decision = policyDecision filters ∧ j.log = [j.decision.entry t.agentSpeaking] ∧
            ∀ (other : Filter) (speaking : Bool), other.config.enabled = true →
              other.config.policy = some p → ∃ j',
                other.evaluate? (calls + n) { t with agentSpeaking := speaking } = some j' ∧
                  j'.decision = j.decision) ∧
          ((∀ filters, reply ≠ .verdict filters) →
            j.decision = plain.decision ∧
            ∃ e, reply.outcome = .error e ∧
              j.log = [.policyFailed e t.text, j.decision.entry t.agentSpeaking] ∧
              j.log.map LogEntry.level = [.error, .trace])) := by
  intro js
  refine ⟨fun c hc => build_withoutPolicy hc, length_course f calls ts, ?_⟩
  intro n t ht
  refine ⟨f.evaluate? (calls + n * f.asks) t, f.withoutPolicy.evaluate 0 t, ?_,
    evaluate?_of_no_policy rfl 0 t, ?_, ?_⟩
  · rw [getElem?_course, ht]
    rfl
  · intro he
    have ha : f.asks = 0 := by simp [asks, he]
    have hd : f.withoutPolicy.config.enabled = false := he
    refine ⟨f.evaluate (calls + n * f.asks) t, evaluate?_of_disabled he _ t, ?_⟩
    rw [ha, Nat.mul_zero, Nat.add_zero, evaluate_of_disabled he, evaluate_of_disabled hd]
    exact ⟨rfl, rfl, rfl⟩
  · intro he
    have ha : f.asks = 1 := by simp [asks, he, hp]
    rw [ha, Nat.mul_one, evaluate?_of_policy he hp]
    refine ⟨by simp, ?_⟩
    intro j hj
    obtain ⟨-, rfl⟩ : _ ∧ f.evaluate (calls + n) t = j := by simpa using hj
    refine ⟨?_, ?_, ?_⟩
    · rw [calls_evaluate, ha]
      rfl
    · intro filters hr
      rw [evaluate_of_verdict he hp hr]
      refine ⟨rfl, rfl, ?_⟩
      intro other speaking he' hp'
      have hother := evaluate?_of_verdict (t := { t with agentSpeaking := speaking }) he' hp' hr
      exact ⟨_, hother, rfl⟩
    · intro hr
      obtain ⟨e, ho⟩ := PolicyReply.outcome_of_no_verdict hr
      rw [evaluate_of_failure he hp ho, decision_withoutPolicy he]
      exact ⟨rfl, e, ho, rfl, rfl⟩

theorem course_contains_failures_cycle :
    let policy : Policy := .cycle [.inState (some "listening"), .constant (.broken none),
      .constant (.error (.failed "off"))]
    let f : Filter := .ofValidated { ignoreList := ⟨["yeah"]⟩, policy := some policy }
    let ts : List Transcript := [⟨"stop", true, none⟩, ⟨"yeah", true, some "speaking"⟩,
      ⟨"stop", false, some "listening"⟩]
    f.config.policy = some policy ∧
      (∃ j, (f.course 3 ts)[1]? = some (some j) ∧ j.calls = 5 ∧
        j.decision = Rule.backchanneling.decision none "yeah" ∧
        j.log =
          [.policyFailed (.panicked "non-string panic payload") "yeah", j.decision.entry true]) ∧
      ∃ j, (f.course 7 ts)[2]? = some (some j) ∧ j.calls = 10 ∧
        j.decision = policyDecision true ∧ j.log = [j.decision.entry false] := by
  intro policy f ts
  have hp : f.config.policy = some policy := rfl
  obtain ⟨-, -, hbroken⟩ := course_contains_failures hp 3 ts
  obtain ⟨call, plain, hcall, hplain, -, hen⟩ := hbroken 1 ⟨"yeah", true, some "speaking"⟩ rfl
  obtain ⟨hnone, hj⟩ := hen rfl
  obtain ⟨-, -, hverdict⟩ := course_contains_failures hp 7 ts
  obtain ⟨call', plain', hcall', -, -, hen'⟩ := hverdict 2 ⟨"stop", false, some "listening"⟩ rfl
  obtain ⟨hnone', hj'⟩ := hen' rfl
  refine ⟨hp, ?_, ?_⟩
  · cases call with
    | none => cases hnone.mp rfl
    | some j =>
      obtain ⟨hcalls, -, hfail⟩ := hj j rfl
      obtain ⟨hd, e, ho, hl, -⟩ := hfail (fun filters h => by cases h)
      obtain rfl := Except.error.inj ho
      refine ⟨j, hcall, hcalls, ?_, hl⟩
      rw [evaluate?_of_no_policy rfl] at hplain
      obtain rfl := Option.some.inj hplain
      rw [hd, evaluate, decision_of_no_policy rfl]
      have hr : f.withoutPolicy.ruling none "yeah" true = .backchanneling := by
        simp only [f, policy]
        decide +kernel
      exact congrArg (Rule.decision none "yeah") hr
  · cases call' with
    | none => cases hnone'.mp rfl
    | some j =>
      obtain ⟨hcalls, hfilters, -⟩ := hj' j rfl
      obtain ⟨hd, hl, -⟩ := hfilters true rfl
      exact ⟨j, hcall', hcalls, hd, hl⟩

theorem not_returns_of_bursting :
    ¬ ∀ (f : Filter) (p : Policy) (calls : Nat) (t : Transcript), f.config.policy = some p →
      f.config.enabled = true → (∀ filters, p.reply calls t.text t.agentState ≠ .verdict filters) →
        ∃ j plain, f.evaluate? calls t = some j ∧ f.withoutPolicy.evaluate? 0 t = some plain ∧
          j.decision = plain.decision := by
  intro h
  let policy : Policy := .constant .bursting
  let f : Filter := .ofValidated { policy := some policy }
  obtain ⟨j, -, hj, -⟩ := h f policy 0 ⟨"stop", true, none⟩ rfl rfl (fun filters h => by cases h)
  have hr : policy.reply 0 "stop" none = .bursting := rfl
  rw [evaluate?_of_policy rfl rfl, if_pos hr] at hj
  cases hj

end Filter

end TurnTaking
