import TurnTaking.Proofs.IgnorePhrases
import TurnTaking.Settings.Load

namespace TurnTaking

namespace IgnoreList

lemma foldPhrase_foldPhrase (phrase : String) :
    foldPhrase (foldPhrase phrase) = foldPhrase phrase := by
  by_cases hp : phrase.toList.any Text.isUpper = true
  · have hf : foldPhrase phrase = Text.lowercase phrase := if_pos hp
    rw [hf, foldPhrase]
    split
    · exact Text.lowercase_lowercase phrase
    · rfl
  · have hf : foldPhrase phrase = phrase := if_neg hp
    rw [hf, hf]

lemma foldCase_foldCase (l : IgnoreList) : l.foldCase.foldCase = l.foldCase := by
  simp [foldCase, Function.comp_def, foldPhrase_foldPhrase]

end IgnoreList

namespace FilterConfig

lemma folded_folded (c : FilterConfig) : c.folded.folded = c.folded := by
  cases hc : c.caseSensitive <;> simp [folded, hc, IgnoreList.foldCase_foldCase]

lemma error?_folded (c : FilterConfig) : c.folded.error? = c.error? := by
  cases hc : c.caseSensitive <;> simp [folded, hc, error?, IgnoreList.isEmpty]

@[simp] lemma emitEvents_folded (c : FilterConfig) : c.folded.emitEvents = c.emitEvents := by
  rw [folded]
  split <;> rfl

@[simp] lemma bufferTime_folded (c : FilterConfig) : c.folded.bufferTime = c.bufferTime := by
  rw [folded]
  split <;> rfl

lemma phrases_folded (c : FilterConfig) :
    c.folded.ignoreList.phrases =
      if c.caseSensitive then c.ignoreList.phrases
      else c.ignoreList.phrases.map IgnoreList.foldPhrase := by
  rw [folded]
  split <;> rfl

lemma error?_eq_none_iff (c : FilterConfig) :
    c.error? = none ↔
      isBufferTime c.bufferTime = true ∧ (c.enabled = true → c.ignoreList.phrases ≠ []) := by
  rw [error?]
  cases isBufferTime c.bufferTime with
  | false => simp
  | true => cases c.enabled <;> simp [IgnoreList.isEmpty]

lemma validated_of_error? {c : FilterConfig} (h : c.error? = none) : c.validated = .ok c.folded := by
  rw [validated, validate, h]
  rfl

lemma validate_folded {c : FilterConfig} (h : c.error? = none) :
    c.folded.validate = (.ok (), c.folded) := by
  rw [validate, error?_folded, h, folded_folded]

end FilterConfig

namespace Settings

variable {w : World} {o : LoadOptions} {s : Settings}

lemma validate_of_load (h : load w o = .ok s) : s.validate = .ok () := by
  cases hf : fileLayer w o with
  | error e =>
    rw [load, hf] at h
    cases h
  | ok file =>
    cases he : Layer.ofVariables w with
    | error e =>
      rw [load, hf, he] at h
      cases h
    | ok environment =>
      rw [load, hf, he] at h
      simp only [bind, Except.bind, pure, Except.pure] at h
      split at h
      · cases h
      · rename_i hv
        obtain rfl := Except.ok.inj h
        exact hv

lemma error?_of_validate (h : s.validate = .ok ()) : s.filter.toConfig.error? = none := by
  cases he : s.filter.toConfig.error? with
  | none => rfl
  | some e =>
    rw [validate, filterConfig, FilterSettings.filterConfig, FilterConfig.validated,
      FilterConfig.validate, he] at h
    cases h

lemma isLevel_of_validate (h : s.validate = .ok ()) : s.logging.isLevel = true := by
  rw [validate] at h
  cases hf : s.filterConfig with
  | error e =>
    rw [hf] at h
    cases h
  | ok c =>
    by_contra hl
    rw [hf] at h
    simp [bind, Except.bind, hl] at h

lemma validate_ok_iff :
    s.validate = .ok () ↔ s.filter.toConfig.error? = none ∧ s.logging.isLevel = true := by
  constructor
  · intro h
    exact ⟨error?_of_validate h, isLevel_of_validate h⟩
  · rintro ⟨he, hl⟩
    rw [validate, filterConfig, FilterSettings.filterConfig, FilterConfig.validated_of_error? he]
    simp [Except.mapError, bind, Except.bind, pure, Except.pure, hl]

lemma filterConfig_of_load (h : load w o = .ok s) :
    s.filterConfig = .ok s.filter.toConfig.folded := by
  have he := error?_of_validate (validate_of_load h)
  rw [filterConfig, FilterSettings.filterConfig, FilterConfig.validated_of_error? he]
  rfl

end Settings

namespace Filter

lemma build_folded {c : FilterConfig} (h : c.error? = none) :
    build c.folded = .ok (ofValidated c.folded) := by
  rw [build_ok_iff, FilterConfig.error?_folded, FilterConfig.folded_folded]
  exact ⟨h, rfl⟩

lemma load_of_settings {w : World} {o : LoadOptions} {s : Settings}
    (h : Settings.load w o = .ok s) : load w o = .ok (ofValidated s.filter.toConfig.folded) := by
  have he := Settings.error?_of_validate (Settings.validate_of_load h)
  rw [load, h]
  show s.filterConfig.bind _ = _
  rw [Settings.filterConfig_of_load h]
  show (build s.filter.toConfig.folded).mapError ConfigError.filter = _
  rw [build_folded he]
  rfl

lemma load_of_error {w : World} {o : LoadOptions} {e : ConfigError}
    (h : Settings.load w o = .error e) : load w o = .error e := by
  rw [load, h]
  rfl

lemma exists_load (s : Settings) : ∃ f : Filter, f.config.policy = none ∧
    f.config.emitEvents = s.filter.emitEvents ∧
    ∀ w o, Settings.load w o = .ok s → load w o = .ok f := by
  refine ⟨ofValidated s.filter.toConfig.folded, ?_, ?_, fun w o => load_of_settings⟩
  · exact FilterConfig.policy_folded _
  · exact FilterConfig.emitEvents_folded _

end Filter

namespace Settings

theorem filter_of_load {w : World} {o : LoadOptions} {s : Settings} (h : load w o = .ok s) :
    let phrases := s.filter.ignoreList.phrases ++ s.filter.extraIgnore
    ∃ c f, s.filterConfig = .ok c ∧
      c.ignoreList.phrases =
        (if s.filter.caseSensitive then phrases else phrases.map IgnoreList.foldPhrase) ∧
      (c.enabled = s.filter.enabled ∧ c.caseSensitive = s.filter.caseSensitive ∧
        c.bufferTime = s.filter.bufferTime ∧ c.policy = none ∧
        c.emitEvents = s.filter.emitEvents) ∧
      (FilterConfig.isBufferTime c.bufferTime = true ∧
        (c.enabled = true → c.ignoreList.phrases ≠ [])) ∧
      c.validate = (.ok (), c) ∧
      Filter.build c = .ok f ∧ f.config = c ∧ Filter.load w o = .ok f := by
  intro phrases
  have he := error?_of_validate (validate_of_load h)
  have hvalid := (FilterConfig.error?_eq_none_iff _).mp ((FilterConfig.error?_folded _).trans he)
  refine ⟨s.filter.toConfig.folded, .ofValidated s.filter.toConfig.folded, filterConfig_of_load h,
    FilterConfig.phrases_folded _, ⟨?_, ?_, ?_, ?_, ?_⟩, hvalid, FilterConfig.validate_folded he,
    Filter.build_folded he, rfl, Filter.load_of_settings h⟩
  · exact FilterConfig.enabled_folded _
  · exact FilterConfig.caseSensitive_folded _
  · exact FilterConfig.bufferTime_folded _
  · exact FilterConfig.policy_folded _
  · exact FilterConfig.emitEvents_folded _

theorem filter_of_load_three_layers :
    let w := World.ofLists
      [("backchannel.toml", .ok "[filter]\nignore_list = [\"ΟΔΟΣ\", \"İyi Σ!\", \"ǅ\"]\n")]
      [("BACKCHANNEL_FILTER_EXTRA_IGNORE", "Got It, Uh-huh"),
        ("BACKCHANNEL_FILTER_BUFFER_TIME_SECS", "2")]
    let o : LoadOptions := { overrides := { extraIgnore := ["YES"], emitEvents := some false } }
    ∃ s c f, load w o = .ok s ∧ s.filterConfig = .ok c ∧
      c.ignoreList.phrases = ["οδος", "i\u0307yi σ!", "ǅ", "got it", "uh-huh", "yes"] ∧
      c.bufferTime = .two ∧ c.emitEvents = false ∧
      Filter.build c = .ok f ∧ f.config = c := by
  intro w o
  let s : Settings :=
    { filter :=
        { ignoreList := ⟨["ΟΔΟΣ", "İyi Σ!", "ǅ"]⟩
          extraIgnore := ["Got It", "Uh-huh", "YES"]
          bufferTime := .two
          emitEvents := false } }
  have h : load w o = .ok s := by decide +kernel
  obtain ⟨c, f, hc, hphrases, ⟨-, -, htime, -, hemits⟩, -, -, hf, hconfig, -⟩ := filter_of_load h
  refine ⟨s, c, f, h, hc, ?_, htime, hemits, hf, hconfig⟩
  rw [hphrases]
  decide +kernel

end Settings

end TurnTaking
