import TurnTaking.Proofs.SharedSettings

namespace TurnTaking

namespace FilterSettings

def IsWordless (s : FilterSettings) : Prop :=
  ∀ phrase ∈ s.ignoreList.phrases ++ s.extraIgnore, tokenize s.caseSensitive phrase = []

instance (s : FilterSettings) : Decidable s.IsWordless :=
  inferInstanceAs (Decidable (∀ phrase ∈ _, _))

end FilterSettings

lemma FilterSettings.size_folded (s : FilterSettings) :
    s.toConfig.folded.ignoreList.size = s.ignoreList.phrases.length + s.extraIgnore.length := by
  rw [FilterConfig.folded]
  split <;> simp [toConfig, IgnoreList.size]

namespace Filter

variable {f : Filter}

def dueAction (f : Filter) (t : Transcript) : Action :=
  if t.agentSpeaking && f.isIgnoreOnly t.text then .filter else .allow

lemma action_evaluate (hp : f.config.policy = none) (he : f.config.enabled = true) (calls : Nat)
    (t : Transcript) : (f.evaluate calls t).decision.action = f.dueAction t := by
  have hd : (f.evaluate calls t).decision =
      (f.ruling none t.text t.agentSpeaking).decision none t.text :=
    decision_of_no_policy hp calls t.text t.agentSpeaking t.agentState
  have hf := filters_iff f none t.text t.agentSpeaking
  have hn := Rule.action_decision_ne_pending none t.text (f.ruling none t.text t.agentSpeaking)
  rw [← hd] at hf hn
  simp only [he, reduceCtorEq, true_and, false_or] at hf
  rw [dueAction]
  split
  · rename_i hc
    exact hf.mpr (by simpa using hc)
  · rename_i hc
    cases ha : (f.evaluate calls t).decision.action with
    | allow => rfl
    | filter => exact absurd (by simpa using hf.mp ha) hc
    | pending => exact absurd ha hn

lemma isIgnoreOnly_of_probePhrase? {phrase : String} (h : f.probePhrase? = some phrase) :
    f.isIgnoreOnly phrase = true :=
  List.find?_some h

lemma isIgnoreOnly_empty (f : Filter) : f.isIgnoreOnly "" = false := by
  apply isIgnoreOnly_of_wordless
  rw [tokens]
  cases f.config.caseSensitive <;> rfl

lemma expected_of_mem_scenarios {x : Scenario} (h : x ∈ f.scenarios) :
    x.expected = f.dueAction x.transcript := by
  rw [scenarios, List.mem_cons, List.mem_append] at h
  rcases h with rfl | h | h
  · simp [dueAction, isIgnoreOnly_empty]
  · cases hp : f.probePhrase? with
    | none => simp [hp] at h
    | some phrase =>
      have hi := isIgnoreOnly_of_probePhrase? hp
      simp only [hp, List.mem_cons, List.not_mem_nil, or_false] at h
      rcases h with rfl | rfl
      · simp [dueAction, hi]
      · simp [dueAction]
  · cases hi : f.isIgnoreOnly commandProbe with
    | true => simp [hi] at h
    | false =>
      simp only [hi, Bool.false_eq_true, if_false, List.mem_singleton] at h
      obtain rfl := h
      simp [dueAction, hi]

lemma action_of_mem_scenarios (hp : f.config.policy = none) (he : f.config.enabled = true)
    (calls : Nat) {x : Scenario} (h : x ∈ f.scenarios) :
    (f.evaluate calls x.transcript).decision.action = x.expected := by
  rw [action_evaluate hp he, expected_of_mem_scenarios h]

lemma decisionCheck_eq (hp : f.config.policy = none) :
    f.decisionCheck =
      if f.config.enabled then
        ⟨"decision_smoke", .pass, toString f.scenarios.length ++ " scenarios matched"⟩
      else disabledCheck "decision_smoke" := by
  cases he : f.config.enabled with
  | false => simp [decisionCheck, isEnabled, he]
  | true =>
    have hf : f.scenarios.filterMap f.scenarioFailure = [] := by
      rw [List.filterMap_eq_nil_iff]
      intro x hx
      rw [scenarioFailure, action_of_mem_scenarios hp he 0 hx]
      simp
    simp [decisionCheck, isEnabled, he, hf]

lemma exists_probePhrase {c : FilterConfig} (h : (ofValidated c).vocabulary.size ≠ 0) :
    ∃ phrase, (ofValidated c).probePhrase? = some phrase := by
  obtain ⟨p, hp⟩ := List.exists_mem_of_length_pos (Nat.pos_of_ne_zero h)
  obtain ⟨hne, phrase, hmem, ht⟩ := Vocabulary.mem_compile.mp hp
  have hi : (ofValidated c).isIgnoreOnly phrase = true := by
    have htokens : (ofValidated c).tokens phrase = p := ht
    rw [isIgnoreOnly_iff, htokens]
    exact ⟨hne, by simpa using Vocabulary.Segmented.phrase hp .nil⟩
  rw [← Option.isSome_iff_exists, probePhrase?, List.find?_isSome]
  exact ⟨phrase, hmem, hi⟩

lemma scenarios_eq (f : Filter) :
    f.scenarios = ⟨"silence_while_speaking", ⟨"", true, none⟩, .allow⟩ ::
      (((f.config.ignoreList.phrases.find? f.isIgnoreOnly).toList.flatMap fun phrase =>
          [⟨"backchannel_while_speaking", ⟨phrase, true, none⟩, .filter⟩,
            ⟨"backchannel_while_listening", ⟨phrase, false, none⟩, .allow⟩]) ++
        if f.isIgnoreOnly "wait, please stop there" then []
        else [⟨"command_while_speaking", ⟨"wait, please stop there", true, none⟩, .allow⟩]) := by
  rw [scenarios, probePhrase?, commandProbe]
  cases f.config.ignoreList.phrases.find? f.isIgnoreOnly <;> rfl

lemma size_vocabulary_eq_zero_iff (s : FilterSettings) :
    (ofValidated s.toConfig.folded).vocabulary.size = 0 ↔ s.IsWordless := by
  rw [Vocabulary.size, List.length_eq_zero_iff, List.eq_nil_iff_forall_not_mem, ofValidated,
    FilterConfig.caseSensitive_folded, FilterConfig.compile_folded]
  constructor
  · intro h phrase hmem
    by_contra hne
    exact h _ (Vocabulary.mem_compile.mpr ⟨hne, phrase, hmem, rfl⟩)
  · intro h p hp
    obtain ⟨hne, phrase, hmem, rfl⟩ := Vocabulary.mem_compile.mp hp
    exact hne (h phrase hmem)

lemma probePhrase?_eq_none_iff (s : FilterSettings) :
    (ofValidated s.toConfig.folded).probePhrase? = none ↔ s.IsWordless := by
  rw [← size_vocabulary_eq_zero_iff]
  constructor
  · intro hn
    by_contra hs
    obtain ⟨phrase, hp⟩ := exists_probePhrase hs
    rw [hn] at hp
    cases hp
  · intro hs
    rw [Option.eq_none_iff_forall_ne_some]
    intro phrase hp
    obtain ⟨hne, hc⟩ := (isIgnoreOnly_iff _ _).mp (isIgnoreOnly_of_probePhrase? hp)
    generalize (ofValidated s.toConfig.folded).tokens phrase = ts at hne hc
    cases hc with
    | nil => exact hne rfl
    | phrase hmem _ =>
      rw [List.length_eq_zero_iff.mp hs] at hmem
      cases hmem

end Filter

namespace Checkup

def of (w : World) (o : LoadOptions) : Checkup :=
  match Filter.load w o with
  | .error e => ofError e
  | .ok f => ofFilter f

def printed (json : Bool) (checks : List Check) : String :=
  let failed := checks.any fun k => k.status = .fail
  let summary :=
    if failed then "doctor: one or more readiness checks failed"
    else "doctor: all readiness checks passed"
  if json then
    (Json.object [("overall_status", .text (if failed then "fail" else "pass")),
      ("summary", .text summary),
      ("checks", .list (checks.map fun k => .object [("name", .text k.name),
        ("status", .text (match k.status with
          | .pass => "pass"
          | .fail => "fail"
          | .skipped => "skipped")),
        ("details", .text k.details)]))]).toPretty
  else
    String.intercalate "\n" (summary :: checks.map fun k =>
      "- [" ++ (match k.status with
        | .pass => "ok"
        | .fail => "fail"
        | .skipped => "skip") ++ "] " ++ k.name ++ ": " ++ k.details)

lemma printed_eq (json : Bool) (c : Checkup) :
    printed json c.checks = if json then c.toJson.toPretty else c.toText := by
  have hm (k : Check) : Check.toJson k = .object [("name", .text k.name),
      ("status", .text (match k.status with
        | .pass => "pass"
        | .fail => "fail"
        | .skipped => "skipped")), ("details", .text k.details)] := by
    rcases k with ⟨name, _ | _ | _, details⟩ <;> rfl
  have hl (k : Check) : Check.toText k = "- [" ++ (match k.status with
      | .pass => "ok"
      | .fail => "fail"
      | .skipped => "skip") ++ "] " ++ k.name ++ ": " ++ k.details := by
    rcases k with ⟨name, _ | _ | _, details⟩ <;> rfl
  have hs : c.status.name = if c.hasFailure then "fail" else "pass" := by
    rw [status]
    cases c.hasFailure <;> rfl
  rw [printed, toJson, toText, funext hm, funext hl, hs, summary]
  rfl

def ofFailure (e : ConfigError) : List Check :=
  [⟨"config_validation", .fail, e.message⟩,
    ⟨"ignore_vocabulary", .skipped, "skipped because configuration did not load"⟩,
    ⟨"decision_smoke", .skipped, "skipped because configuration did not load"⟩]

def ofSettings (s : Settings) (compiled tried : Nat) : List Check :=
  let configured := s.filter.ignoreList.phrases.length + s.filter.extraIgnore.length
  ⟨"config_validation", .pass, "configuration loaded and validated"⟩ ::
    if s.filter.enabled then
      [if s.filter.IsWordless then
          ⟨"ignore_vocabulary", .fail,
            "none of the " ++ toString configured ++ " configured phrases has any words"⟩
        else
          ⟨"ignore_vocabulary", .pass, toString compiled ++ " distinct phrases compiled from " ++
            toString configured ++ " entries"⟩,
        ⟨"decision_smoke", .pass, toString tried ++ " scenarios matched"⟩]
    else
      [⟨"ignore_vocabulary", .skipped, "filtering is disabled"⟩,
        ⟨"decision_smoke", .skipped, "filtering is disabled"⟩]

def statuses : Except ConfigError Settings → List CheckStatus
  | .error _ => [.fail, .skipped, .skipped]
  | .ok s =>
    if s.filter.enabled then [.pass, if s.filter.IsWordless then .fail else .pass, .pass]
    else [.pass, .skipped, .skipped]

lemma of_statuses_eq {r : Except ConfigError Settings} {a b d : CheckStatus}
    (h : statuses r = [a, b, d]) :
    d ≠ .fail ∧ ∀ s, r = .ok s →
      (b = .skipped ↔ s.filter.enabled = false) ∧ (d = .skipped ↔ s.filter.enabled = false) := by
  cases r with
  | error e =>
    simp only [statuses, List.cons.injEq, and_true] at h
    obtain ⟨rfl, rfl, rfl⟩ := h
    simp
  | ok s =>
    rw [statuses] at h
    split at h
    · rename_i he
      simp only [List.cons.injEq, and_true] at h
      obtain ⟨rfl, rfl, rfl⟩ := h
      by_cases hw : s.filter.IsWordless <;> simp [he, hw]
    · rename_i he
      simp only [List.cons.injEq, and_true] at h
      obtain ⟨rfl, rfl, rfl⟩ := h
      simp [he]

variable (w : World) (o : LoadOptions)

lemma checks_of_settings {s : Settings} (hs : Settings.load w o = .ok s) {f : Filter}
    (hf : Filter.load w o = .ok f) :
    (of w o).checks = ofSettings s f.vocabulary.size f.scenarios.length := by
  obtain rfl : _ = f := Except.ok.inj ((Filter.load_of_settings hs).symm.trans hf)
  have he : (Filter.ofValidated s.filter.toConfig.folded).config.enabled = s.filter.enabled :=
    FilterConfig.enabled_folded s.filter.toConfig
  have hn : (Filter.ofValidated s.filter.toConfig.folded).config.ignoreList.size =
      s.filter.ignoreList.phrases.length + s.filter.extraIgnore.length :=
    FilterSettings.size_folded s.filter
  have hw := Filter.size_vocabulary_eq_zero_iff s.filter
  have hp : (Filter.ofValidated s.filter.toConfig.folded).config.policy = none :=
    FilterConfig.policy_folded s.filter.toConfig
  rw [of, hf]
  generalize Filter.ofValidated s.filter.toConfig.folded = f at *
  simp only [ofFilter, ofSettings, Filter.decisionCheck_eq hp, Filter.vocabularyCheck,
    Filter.isEnabled, he, hn]
  cases s.filter.enabled with
  | false => rfl
  | true => by_cases h : s.filter.IsWordless <;> simp [h, hw]

lemma checks_of_error {e : ConfigError} (hs : Settings.load w o = .error e) :
    (of w o).checks = ofFailure e := by
  rw [of, Filter.load_of_error hs]
  rfl

lemma names_of :
    (of w o).checks.map Check.name =
      ["config_validation", "ignore_vocabulary", "decision_smoke"] := by
  cases hs : Settings.load w o with
  | error e =>
    rw [checks_of_error w o hs]
    rfl
  | ok s =>
    rw [checks_of_settings w o hs (Filter.load_of_settings hs), ofSettings]
    cases s.filter.enabled with
    | false => rfl
    | true => by_cases hw : s.filter.IsWordless <;> simp [hw]

lemma statuses_of : (of w o).checks.map Check.status = statuses (Settings.load w o) := by
  cases hs : Settings.load w o with
  | error e =>
    rw [checks_of_error w o hs]
    rfl
  | ok s =>
    rw [checks_of_settings w o hs (Filter.load_of_settings hs), ofSettings, statuses]
    cases s.filter.enabled with
    | false => rfl
    | true => by_cases hw : s.filter.IsWordless <;> simp [hw]

lemma exitCode_eq_two_iff (c : Checkup) :
    c.exitCode = 2 ↔ CheckStatus.fail ∈ c.checks.map Check.status := by
  have hf : c.hasFailure = true ↔ CheckStatus.fail ∈ c.checks.map Check.status := by
    simp [hasFailure]
  rw [← hf, exitCode]
  cases c.hasFailure <;> simp

end Checkup

namespace Report

lemma checkup_eq (w : World) (o : LoadOptions) (json : Bool) :
    (checkup w o json).exitCode = (Checkup.of w o).exitCode ∧
      (checkup w o json).output =
        if json then (Checkup.of w o).toJson.toPretty else (Checkup.of w o).toText := by
  rw [checkup, Checkup.of]
  cases Filter.load w o <;> exact ⟨rfl, rfl⟩

lemma exitCode_checkup_eq_two_iff (w : World) (o : LoadOptions) (json : Bool) :
    (checkup w o json).exitCode = 2 ↔
      (∃ e, Settings.load w o = .error e) ∨
        ∃ s, Settings.load w o = .ok s ∧ s.filter.enabled = true ∧ s.filter.IsWordless := by
  rw [(checkup_eq w o json).1, Checkup.exitCode_eq_two_iff, Checkup.statuses_of]
  cases Settings.load w o with
  | error e => simp [Checkup.statuses]
  | ok s =>
    cases he : s.filter.enabled with
    | false => simp [Checkup.statuses, he]
    | true => by_cases hw : s.filter.IsWordless <;> simp [Checkup.statuses, he, hw]

/-- Whatever settings load, an enabled filter decides every scenario that is chosen from them as it
should, and one of them is a phrase if any has words; so the last check never fails. -/
theorem checkup_verdict (w : World) (o : LoadOptions) (json : Bool) :
    let report := checkup w o json
    let checks := (Checkup.of w o).checks
    report.output = Checkup.printed json checks ∧
    (∀ e, Settings.load w o = .error e → checks = Checkup.ofFailure e) ∧
    (∀ s, Settings.load w o = .ok s → ∃ f, Filter.load w o = .ok f ∧
      let phrase? := f.config.ignoreList.phrases.find? f.isIgnoreOnly
      f.scenarios = ⟨"silence_while_speaking", ⟨"", true, none⟩, .allow⟩ ::
        ((phrase?.toList.flatMap fun phrase =>
            [⟨"backchannel_while_speaking", ⟨phrase, true, none⟩, .filter⟩,
              ⟨"backchannel_while_listening", ⟨phrase, false, none⟩, .allow⟩]) ++
          if f.isIgnoreOnly "wait, please stop there" then []
          else [⟨"command_while_speaking", ⟨"wait, please stop there", true, none⟩, .allow⟩]) ∧
      (s.filter.enabled = true →
        (∀ x ∈ f.scenarios, ∀ calls,
          (f.evaluate calls x.transcript).decision.action = x.expected) ∧
        (phrase? = none ↔ s.filter.IsWordless)) ∧
      checks = Checkup.ofSettings s f.vocabulary.size f.scenarios.length) ∧
    ∃ loading vocabulary decisions : Check, checks = [loading, vocabulary, decisions] ∧
      (loading.name = "config_validation" ∧ vocabulary.name = "ignore_vocabulary" ∧
        decisions.name = "decision_smoke") ∧
      decisions.status ≠ .fail ∧
      (report.exitCode = 2 ↔
        (∃ e, Settings.load w o = .error e) ∨
          ∃ s, Settings.load w o = .ok s ∧ s.filter.enabled = true ∧ s.filter.IsWordless) ∧
      (report.exitCode ≠ 2 → report.exitCode = 0 ∧ ∃ s, Settings.load w o = .ok s ∧
        (vocabulary.status = .skipped ↔ s.filter.enabled = false) ∧
        (decisions.status = .skipped ↔ s.filter.enabled = false)) := by
  intro report checks
  refine ⟨?_, ?_, ?_, ?_⟩
  · rw [Checkup.printed_eq]
    exact (checkup_eq w o json).2
  · intro e hs
    exact Checkup.checks_of_error w o hs
  · intro s hs
    have hf := Filter.load_of_settings hs
    refine ⟨_, hf, Filter.scenarios_eq _, ?_, Checkup.checks_of_settings w o hs hf⟩
    intro he
    refine ⟨?_, Filter.probePhrase?_eq_none_iff s.filter⟩
    intro x hx calls
    refine Filter.action_of_mem_scenarios (FilterConfig.policy_folded _) ?_ calls hx
    exact (FilterConfig.enabled_folded _).trans he
  · have hnames := Checkup.names_of w o
    have hstatuses := Checkup.statuses_of w o
    obtain ⟨loading, vocabulary, decisions, hc⟩ := List.length_eq_three.mp
      (by simpa using congrArg List.length hnames : (Checkup.of w o).checks.length = 3)
    rw [hc] at hnames hstatuses
    simp only [List.map_cons, List.map_nil, List.cons.injEq, and_true] at hnames
    obtain ⟨hdecisions, hskipped⟩ := Checkup.of_statuses_eq hstatuses.symm
    have htwo := exitCode_checkup_eq_two_iff w o json
    refine ⟨loading, vocabulary, decisions, hc, hnames, hdecisions, htwo, ?_⟩
    intro h
    refine ⟨(exitCode_checkup w o json).resolve_right h, ?_⟩
    cases hs : Settings.load w o with
    | error e => exact absurd (htwo.mpr (Or.inl ⟨e, hs⟩)) h
    | ok s => exact ⟨s, rfl, hskipped s hs⟩

theorem checkup_verdict_three_worlds :
    let wordless := World.ofLists
      [("backchannel.toml", .ok "[filter]\nignore_list = [\"--\", \"?!\", \"\"]\n")]
      [("BACKCHANNEL_FILTER_EXTRA_IGNORE", "...")]
    let disabled := World.ofLists
      [("backchannel.toml", .ok "[filter]\nenabled = false\nignore_list = []\n")] []
    let two := World.ofLists [] [("BACKCHANNEL_FILTER_IGNORE_LIST", "?!,Yeah,stop there")]
    ((checkup wordless {} true).exitCode = 2 ∧ (checkup wordless {} true).output =
      (Json.object [("overall_status", .text "fail"),
        ("summary", .text "doctor: one or more readiness checks failed"),
        ("checks", .list [
          .object [("name", .text "config_validation"), ("status", .text "pass"),
            ("details", .text "configuration loaded and validated")],
          .object [("name", .text "ignore_vocabulary"), ("status", .text "fail"),
            ("details", .text "none of the 4 configured phrases has any words")],
          .object [("name", .text "decision_smoke"), ("status", .text "pass"),
            ("details", .text "2 scenarios matched")]])]).toPretty) ∧
      ((checkup disabled {} false).exitCode = 0 ∧ (checkup disabled {} false).output =
        "doctor: all readiness checks passed\n" ++
          "- [ok] config_validation: configuration loaded and validated\n" ++
          "- [skip] ignore_vocabulary: filtering is disabled\n" ++
          "- [skip] decision_smoke: filtering is disabled") ∧
      ∃ f, Filter.load two {} = .ok f ∧ f.scenarios = [
          ⟨"silence_while_speaking", ⟨"", true, none⟩, .allow⟩,
          ⟨"backchannel_while_speaking", ⟨"yeah", true, none⟩, .filter⟩,
          ⟨"backchannel_while_listening", ⟨"yeah", false, none⟩, .allow⟩,
          ⟨"command_while_speaking", ⟨"wait, please stop there", true, none⟩, .allow⟩] ∧
        ∀ x ∈ f.scenarios, (f.evaluate 0 x.transcript).decision.action = x.expected := by
  intro wordless disabled two
  refine ⟨?_, ?_, ?_⟩
  · obtain ⟨hout, -, hsettings, _, _, _, -, -, -, htwo, -⟩ := checkup_verdict wordless {} true
    have hs : Settings.load wordless {} =
        .ok { filter := { ignoreList := ⟨["--", "?!", ""]⟩, extraIgnore := ["..."] } } := by
      decide +kernel
    obtain ⟨f, hf, -, -, hchecks⟩ := hsettings _ hs
    obtain rfl : _ = f := Except.ok.inj ((Filter.load_of_settings hs).symm.trans hf)
    have hreported : (Checkup.of wordless {}).checks = [
        ⟨"config_validation", .pass, "configuration loaded and validated"⟩,
        ⟨"ignore_vocabulary", .fail, "none of the 4 configured phrases has any words"⟩,
        ⟨"decision_smoke", .pass, "2 scenarios matched"⟩] := by
      rw [hchecks]
      decide +kernel
    refine ⟨htwo.mpr (Or.inr ⟨_, hs, rfl, by decide +kernel⟩), ?_⟩
    rw [hout, hreported]
    rfl
  · obtain ⟨hout, -, hsettings, _, _, _, -, -, -, -, hzero⟩ := checkup_verdict disabled {} false
    have hs : Settings.load disabled {} =
        .ok { filter := { enabled := false, ignoreList := .empty } } := by decide +kernel
    obtain ⟨f, -, -, -, hchecks⟩ := hsettings _ hs
    refine ⟨(hzero (by decide +kernel)).1, ?_⟩
    rw [hout, hchecks]
    rfl
  · have hs : Settings.load two {} =
        .ok { filter := { ignoreList := ⟨["?!", "Yeah", "stop there"]⟩ } } := by decide +kernel
    obtain ⟨-, -, hsettings, -⟩ := checkup_verdict two {} false
    obtain ⟨f, hf, hscenarios, hactions, -⟩ := hsettings _ hs
    obtain rfl : _ = f := Except.ok.inj ((Filter.load_of_settings hs).symm.trans hf)
    refine ⟨_, hf, ?_, fun x hx => (hactions rfl).1 x hx 0⟩
    rw [hscenarios]
    decide +kernel

end Report

end TurnTaking
