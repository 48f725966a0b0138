import TurnTaking.CommandLine.Run
import TurnTaking.Proofs.UnreadableLines

namespace TurnTaking

namespace Filter

variable {w : World} {o : LoadOptions}

lemma settings_of_load {f : Filter} (h : load w o = .ok f) : ∃ s, Settings.load w o = .ok s := by
  cases hs : Settings.load w o with
  | error e =>
    rw [load_of_error hs] at h
    cases h
  | ok s => exact ⟨s, rfl⟩

end Filter

lemma Filter.encode_decide (f : Filter) (calls : Nat) (text : String) (speaking : Bool)
    (state : Option String) :
    (f.decide calls text speaking state).decision.toJson.encode =
      .ok (f.decide calls text speaking state).decision.toJson.normal := by
  have hd : (f.decide calls text speaking state).decision = _ :=
    judge_eq f calls text speaking state
  rw [hd, Json.encode, if_pos]
  cases f.ruling (f.answer? calls text state) text speaking <;> rfl

lemma Filter.confidence_decide {f : Filter} (hp : f.config.policy = none) (calls : Nat)
    (text : String) (speaking : Bool) (state : Option String) :
    (f.decide calls text speaking state).decision.confidence = .half ∨
      (f.decide calls text speaking state).decision.confidence = .one := by
  rw [decision_of_no_policy hp, Rule.confidence_decision]
  split
  · exact Or.inl rfl
  · exact Or.inr rfl

lemma RunError.className_ofConfig (e : ConfigError) :
    (ofConfig e).className = "config_validation" := by
  cases e <;> rfl

lemma RunError.hint_ofConfig (e : ConfigError) : (ofConfig e).hint =
    "The filter configuration is invalid. Fix the config file or environment and retry." := by
  cases e <;> rfl

namespace Report

variable {w : World} {o : LoadOptions} {s : Settings}

lemma exitCode_replay (hs : Settings.load w o = .ok s) (path : String) :
    (replay w o path).exitCode = 0 ∨ (replay w o path).exitCode = 3 := by
  rcases replay_cases hs path with
    ⟨-, -, h3⟩ | ⟨-, -, -, h0⟩ | ⟨-, -, -, -, -, h3⟩
  · exact Or.inr h3
  · exact Or.inl h0
  · exact Or.inr h3

lemma verdict_of_load {f : Filter} (hf : Filter.load w o = .ok f) (text : String)
    (speaking : Bool) (state : Option String) :
    verdict w o text speaking state =
      let j := f.decide 0 text speaking state
      success "classify" (j.decision.action.name ++ ": " ++ j.decision.reason)
        j.decision.toJson.normal (f.readyLog ++ j.log) := by
  simp only [verdict, hf, f.encode_decide]

lemma exitCode_verdict (hs : Settings.load w o = .ok s) (text : String) (speaking : Bool)
    (state : Option String) : (verdict w o text speaking state).exitCode = 0 := by
  rw [verdict_of_load (Filter.load_of_settings hs)]
  rfl

lemma exitCode_sources (hs : Settings.load w o = .ok s) : (sources w o).exitCode = 0 := by
  rw [sources, hs]

lemma exitCode_checkup (w : World) (o : LoadOptions) (json : Bool) :
    (checkup w o json).exitCode = 0 ∨ (checkup w o json).exitCode = 2 := by
  rw [checkup]
  cases Filter.load w o with
  | error e => exact Or.inr rfl
  | ok f =>
    show (Checkup.ofFilter f).exitCode = 0 ∨ (Checkup.ofFilter f).exitCode = 2
    rw [Checkup.exitCode]
    split
    · exact Or.inr rfl
    · exact Or.inl rfl

lemma settings_of_checkup {json : Bool} (h : (checkup w o json).exitCode = 0) :
    ∃ s, Settings.load w o = .ok s := by
  cases hf : Filter.load w o with
  | error e =>
    rw [checkup, hf] at h
    cases h
  | ok f => exact Filter.settings_of_load hf

end Report

namespace Command

def name : Command → String
  | classify .. => "classify"
  | replay _ => "replay"
  | config => "config"
  | doctor _ => "doctor"

def isDoctor : Command → Bool
  | doctor _ => true
  | classify .. | replay _ | config => false

variable {w : World} {o : LoadOptions} {c : Command}

lemma run_of_error (hc : c.isDoctor = false) {e : ConfigError}
    (h : Settings.load w o = .error e) : c.run w o = .failure c.name (.ofConfig e) [] := by
  cases c with
  | classify text speaking state =>
    rw [run, Report.verdict, Filter.load_of_error h]
    rfl
  | replay path => exact Report.replay_of_error h path
  | config =>
    rw [run, Report.sources, h]
    rfl
  | doctor json => cases hc

lemma exitCode_run_of_settings (hc : c.isDoctor = false) {s : Settings}
    (h : Settings.load w o = .ok s) :
    (c.run w o).exitCode = 0 ∨ (c.run w o).exitCode = 3 := by
  cases c with
  | classify text speaking state => exact Or.inl (Report.exitCode_verdict h text speaking state)
  | replay path => exact Report.exitCode_replay h path
  | config => exact Or.inl (Report.exitCode_sources h)
  | doctor json => cases hc

lemma exitCode_run_eq_two (hc : c.isDoctor = false) :
    (c.run w o).exitCode = 2 ↔ ∃ e, Settings.load w o = .error e := by
  constructor
  · intro h
    cases hs : Settings.load w o with
    | error e => exact ⟨e, rfl⟩
    | ok s =>
      have hrun := exitCode_run_of_settings hc hs
      omega
  · rintro ⟨e, hs⟩
    rw [run_of_error hc hs]
    exact RunError.exitCode_ofConfig e

lemma exitCode_run (w : World) (o : LoadOptions) (c : Command) :
    (c.run w o).exitCode ∈ [0, 2, 3] := by
  cases hc : c.isDoctor with
  | true =>
    cases c with
    | doctor json => rcases Report.exitCode_checkup w o json with h | h <;> simp [run, h]
    | classify | replay | config => cases hc
  | false =>
    cases hs : Settings.load w o with
    | error e => simp [(exitCode_run_eq_two hc).mpr ⟨e, hs⟩]
    | ok s => rcases exitCode_run_of_settings hc hs with h | h <;> simp [h]

lemma exitCode_of (w : World) (args : List String) : (Run.of w args).exitCode ∈ [0, 2, 3] := by
  rw [Run.of]
  cases Invocation.parse none args with
  | error r => cases r <;> simp [Run.ofRefusal]
  | ok i => exact exitCode_run w i.options i.command

/-- The commands agree on the settings. All but the checkup end with 2 exactly if the settings do
not load, and then they print the same but for their names; the checkup passes only settings that
the others can use. -/
theorem commands_agree (w : World) (o : LoadOptions) :
    (∀ c : Command, c.isDoctor = false →
      ((c.run w o).exitCode = 2 ↔ ∃ e, Settings.load w o = .error e)) ∧
    (∀ e, Settings.load w o = .error e → ∀ c : Command, c.isDoctor = false →
      (c.run w o).output =
        (Json.object [("command", .text c.name), ("status", .text "error"),
          ("error_class", .text "config_validation"),
          ("message", .text (RunError.ofConfig e).message),
          ("hint", .text
            "The filter configuration is invalid. Fix the config file or environment and retry.")]
          ).toLine) ∧
    (∀ s, Settings.load w o = .ok s → ∃ f, Filter.load w o = .ok f ∧
      (∀ text speaking state,
        let report := (classify text speaking state).run w o
        let d := (f.decide 0 text speaking state).decision
        report.exitCode = 0 ∧
          report.output =
            (Json.object [("command", .text "classify"), ("status", .text "ok"),
              ("error_class", .null), ("message", .text (d.action.name ++ ": " ++ d.reason)),
              ("data", .object [("action", .text d.action.name),
                ("confidence", .float .double d.confidence),
                ("metadata", (Json.object d.metadata).normal), ("reason", .text d.reason)])]
              ).toLine ∧
          (d.confidence = .half ∨ d.confidence = .one)) ∧
      (config.run w o).exitCode = 0 ∧
      ∀ path, ((replay path).run w o).exitCode = 0 ∨ ((replay path).run w o).exitCode = 3) ∧
    (∀ json, ((doctor json).run w o).exitCode = 0 → (config.run w o).exitCode = 0 ∧
      ∀ text speaking state, ((classify text speaking state).run w o).exitCode = 0) ∧
    (∀ c : Command, (c.run w o).exitCode ∈ [0, 2, 3]) ∧
    ∀ args, (Run.of w args).exitCode ∈ [0, 2, 3] := by
  refine ⟨fun c hc => exitCode_run_eq_two hc, ?_, ?_, ?_, exitCode_run w o, exitCode_of w⟩
  · intro e hs c hc
    rw [run_of_error hc hs, Report.failure, Report.errorPayload, RunError.className_ofConfig,
      RunError.hint_ofConfig]
    rfl
  · intro s hs
    obtain ⟨f, hp, -, hload⟩ := Filter.exists_load s
    have hf := hload w o hs
    refine ⟨f, hf, ?_, Report.exitCode_sources hs, Report.exitCode_replay hs⟩
    intro text speaking state report d
    have hreport : report = Report.verdict w o text speaking state := rfl
    rw [hreport, Report.verdict_of_load hf, ← Decision.normal_toJson]
    refine ⟨rfl, rfl, ?_⟩
    exact Filter.confidence_decide hp 0 text speaking state
  · intro json h
    obtain ⟨s, hs⟩ := Report.settings_of_checkup h
    refine ⟨Report.exitCode_sources hs, ?_⟩
    intro text speaking state
    exact Report.exitCode_verdict hs text speaking state

theorem commands_agree_empty_list :
    let w := World.ofLists [("backchannel.toml", .ok "[filter]\nignore_list = []\n")] []
    (∀ path, ((replay path).run w {}).exitCode = 2) ∧ (config.run w {}).exitCode = 2 ∧
      (config.run w {}).output =
        (Json.object [("command", .text "config"), ("status", .text "error"),
          ("error_class", .text "config_validation"),
          ("message", .text "ignore_list cannot be empty when filtering is enabled"),
          ("hint", .text
            "The filter configuration is invalid. Fix the config file or environment and retry.")]
          ).toLine ∧
      (config.run .empty {}).exitCode = 0 := by
  intro w
  have hs : Settings.load w {} = .error (.filter .emptyIgnoreList) := by decide +kernel
  have hs' : Settings.load .empty {} = .ok {} := by decide +kernel
  obtain ⟨hexit, houtput, -⟩ := commands_agree w {}
  obtain ⟨-, -, hsettings, -⟩ := commands_agree .empty {}
  obtain ⟨f, -, -, hconfig, -⟩ := hsettings {} hs'
  have hreplay (path : String) := (hexit (replay path) rfl).mpr ⟨_, hs⟩
  exact ⟨hreplay, (hexit config rfl).mpr ⟨_, hs⟩, houtput _ hs config rfl, hconfig⟩

end Command

end TurnTaking
