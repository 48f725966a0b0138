import TurnTaking.Proofs.SettingsFile

/-! Variables by their names, a file at one of two places, and keys in the sections of that file. -/

namespace TurnTaking

namespace World

def shown? (w : World) (name : String) : Option String :=
  (w.lookup name).filter fun value => !Text.isBlankText value

def Has (w : World) (path : String) : Prop :=
  (∃ text, w.contents path = .ok text) ∨
    ∃ fault ∈ [FileFault.isDirectory, .forbidden, .notText], w.contents path = .error fault

inductive Chooses (w : World) : Option String → Option String → Prop where
  | named {path : String} : w.Has path → w.Chooses (some path) (some path)
  | unnamed {path : String} : ¬ w.Has path → w.Chooses (some path) none
  | first : w.Has "backchannel.toml" → w.Chooses none (some "backchannel.toml")
  | second : ¬ w.Has "backchannel.toml" → w.Has "config/backchannel.toml" →
      w.Chooses none (some "config/backchannel.toml")
  | neither : ¬ w.Has "backchannel.toml" → ¬ w.Has "config/backchannel.toml" → w.Chooses none none

variable {w : World}

lemma isPresent_iff (path : String) : w.isPresent path = true ↔ w.Has path := by
  rw [isPresent, Has]
  cases w.contents path with
  | ok text => simp
  | error fault => cases fault <;> simp [FileFault.isPresent]

lemma chooses_resolve (named : Option String) : w.Chooses named (Settings.resolve w named) := by
  cases named with
  | some path =>
    rw [Settings.resolve]
    split
    · exact .named ((isPresent_iff path).mp ‹_›)
    · exact .unnamed (mt (isPresent_iff path).mpr ‹_›)
  | none =>
    rw [Settings.resolve, Settings.places, Settings.usualPlace, List.find?_cons, List.find?_cons]
    cases hf : w.isPresent "backchannel.toml" with
    | true => exact .first ((isPresent_iff _).mp hf)
    | false =>
      have hnot : ¬ w.Has "backchannel.toml" := by simp [← isPresent_iff, hf]
      cases hs : w.isPresent "config/backchannel.toml" with
      | true => exact .second hnot ((isPresent_iff _).mp hs)
      | false => exact .neither hnot (by simp [← isPresent_iff, hs])

lemma Chooses.unique {named path path' : Option String} (h : w.Chooses named path)
    (h' : w.Chooses named path') : path = path' := by
  cases h <;> cases h' <;> first | rfl | contradiction

lemma resolve_eq_iff (named path : Option String) :
    Settings.resolve w named = path ↔ w.Chooses named path :=
  ⟨fun h => h ▸ chooses_resolve named, fun h => (chooses_resolve named).unique h⟩

end World

namespace Variable

def flag? (value : String) : Option Bool :=
  let word := Text.lowercaseAscii (Text.trim value)
  if word ∈ ["true", "1", "yes", "on"] then some true
  else if word ∈ ["false", "0", "no", "off"] then some false
  else none

def phrases (value : String) : List String :=
  ((Text.pieces (· == ',') value.toList).map fun piece => Text.trim (String.ofList piece)).filter
    (· ≠ "")

def number? (value : String) : Option Binary :=
  Format.double.read? (Text.trim value)

def format? (value : String) : Option LogFormat :=
  let word := Text.lowercaseAscii (Text.trim value)
  if word = "compact" then some .compact
  else if word = "pretty" then some .pretty
  else if word = "json" then some .json
  else none

lemma readFlag?_eq : Layer.readFlag? = flag? := by
  funext value
  simp only [Layer.readFlag?, flag?, LogFormat.normalize, List.contains_iff_mem]

lemma format?_eq (value : String) : (LogFormat.read value).toOption = format? value := by
  simp only [LogFormat.read, LogFormat.normalize, format?]
  generalize Text.lowercaseAscii (Text.trim value) = word
  have hn : LogFormat.named? word =
      if word = "compact" then some .compact
      else if word = "pretty" then some .pretty
      else if word = "json" then some .json
      else none := by
    simp only [LogFormat.named?, LogFormat.all, LogFormat.name, List.find?_cons, List.find?_nil,
      beq_eq_decide, eq_comm (b := word)]
    by_cases hc : word = "compact" <;> by_cases hp : word = "pretty" <;>
      by_cases hj : word = "json" <;> simp [hc, hp, hj]
  rw [← hn]
  cases LogFormat.named? word <;> rfl

end Variable

def World.HasMalformed (w : World) : Prop :=
  (∃ name ∈ ["BACKCHANNEL_FILTER_ENABLED", "BACKCHANNEL_FILTER_CASE_SENSITIVE",
      "BACKCHANNEL_FILTER_EMIT_EVENTS"],
    ∃ value, w.shown? name = some value ∧ Variable.flag? value = none) ∨
  (∃ value, w.shown? "BACKCHANNEL_FILTER_BUFFER_TIME_SECS" = some value ∧
    Variable.number? value = none) ∨
  ∃ value, (w.shown? "BACKCHANNEL_LOGGING_FORMAT").or (w.shown? "BACKCHANNEL_LOG_FORMAT") =
    some value ∧ Variable.format? value = none

def Toml.Entries.at? (document : Toml.Entries) (title key : String) (position : Nat) :
    Option Toml.Value :=
  (document.get? title).bind fun v => v.field? key position

/-- Every setting is that of the highest layer that gives it. -/
structure Settings.FromLayers (w : World) (o : Overrides) (document : Toml.Entries)
    (s : Settings) : Prop where
  enabled : s.filter.enabled =
    (o.enabled.or (((w.shown? "BACKCHANNEL_FILTER_ENABLED").bind Variable.flag?).or
      ((document.at? "filter" "enabled" 0).bind Toml.Value.asBoolean?))).getD true
  ignoreList : s.filter.ignoreList.phrases =
    (o.ignoreList.or (((w.shown? "BACKCHANNEL_FILTER_IGNORE_LIST").map Variable.phrases).or
      ((document.at? "filter" "ignore_list" 1).bind Toml.Value.asTexts?))).getD
        IgnoreList.builtIn.phrases
  extraIgnore : s.filter.extraIgnore =
    (((w.shown? "BACKCHANNEL_FILTER_EXTRA_IGNORE").map Variable.phrases).or
      ((document.at? "filter" "extra_ignore" 2).bind Toml.Value.asTexts?)).getD [] ++ o.extraIgnore
  caseSensitive : s.filter.caseSensitive =
    (o.caseSensitive.or (((w.shown? "BACKCHANNEL_FILTER_CASE_SENSITIVE").bind Variable.flag?).or
      ((document.at? "filter" "case_sensitive" 3).bind Toml.Value.asBoolean?))).getD false
  bufferTime : s.filter.bufferTime =
    (o.bufferTime.or (((w.shown? "BACKCHANNEL_FILTER_BUFFER_TIME_SECS").bind Variable.number?).or
      ((document.at? "filter" "buffer_time_secs" 4).bind Toml.Value.asNumber?))).getD .half
  emitEvents : s.filter.emitEvents =
    (o.emitEvents.or (((w.shown? "BACKCHANNEL_FILTER_EMIT_EVENTS").bind Variable.flag?).or
      ((document.at? "filter" "emit_events" 5).bind Toml.Value.asBoolean?))).getD true
  level : s.logging.level =
    (o.level.or (((w.shown? "BACKCHANNEL_LOGGING_LEVEL").or (w.shown? "BACKCHANNEL_LOG_LEVEL")).or
      ((document.at? "logging" "level" 0).bind Toml.Value.asText?))).getD "info"
  format : s.logging.format =
    (o.format.or ((((w.shown? "BACKCHANNEL_LOGGING_FORMAT").or
      (w.shown? "BACKCHANNEL_LOG_FORMAT")).bind Variable.format?).or
      ((document.at? "logging" "format" 1).bind Toml.Value.asFormat?))).getD .compact

namespace Setting

variable {k : Setting} (w : World)

lemma provided?_of_single {name : String} (h : k.variableNames = [name]) :
    (k.provided? w).map Prod.snd = w.shown? name := by
  rw [provided?, h, List.findSome?_cons, List.findSome?_nil, World.shown?]
  cases (w.lookup name).filter fun value => !Text.isBlankText value <;> rfl

lemma provided?_of_pair {name other : String} (h : k.variableNames = [name, other]) :
    (k.provided? w).map Prod.snd = (w.shown? name).or (w.shown? other) := by
  rw [provided?, h, List.findSome?_cons, List.findSome?_cons, List.findSome?_nil, World.shown?,
    World.shown?]
  cases (w.lookup name).filter fun value => !Text.isBlankText value <;>
    cases (w.lookup other).filter fun value => !Text.isBlankText value <;> rfl

lemma inEnvironment?_eq_bind (k : Setting) :
    k.inEnvironment? w = ((k.provided? w).map Prod.snd).bind k.read? := by
  rw [Option.bind_map]
  rfl

lemma inEnvironment?_of_single {name : String} (h : k.variableNames = [name]) :
    k.inEnvironment? w = (w.shown? name).bind k.read? := by
  rw [inEnvironment?_eq_bind, provided?_of_single w h]

lemma inDocument?_eq_at? (k : Setting) (document : Toml.Entries) :
    k.inDocument? document = (document.at? k.table k.key k.position).bind k.ofToml? := by
  rw [Toml.Entries.at?, Option.bind_assoc]
  rfl

def Malformed (k : Setting) (value : String) : Prop :=
  (k.provided? w).map Prod.snd = some value ∧ k.read? value = none

lemma exists_malformed_iff (k : Setting) : (∃ value, k.Malformed w value) ↔
    ∃ key value, k.provided? w = some (key, value) ∧ k.read? value = none := by
  simp only [Malformed]
  rcases k.provided? w with - | ⟨key, value⟩ <;> simp

lemma hasMalformed_iff :
    w.HasMalformed ↔ ∃ (k : Setting) (value : String), k.Malformed w value := by
  have hf (value : String) : Layer.readFlag? value = Variable.flag? value := by
    rw [Variable.readFlag?_eq]
  have hs {k : Setting} {name : String} (h : k.variableNames = [name]) := provided?_of_single w h
  have hp := provided?_of_pair w (k := format) rfl
  constructor
  · rintro (⟨name, hn, value, hv, hr⟩ | ⟨value, hv, hr⟩ | ⟨value, hv, hr⟩)
    · rw [← hf] at hr
      simp only [List.mem_cons, List.not_mem_nil, or_false] at hn
      rcases hn with rfl | rfl | rfl
      · exact ⟨enabled, value, (hs rfl).trans hv, hr⟩
      · exact ⟨caseSensitive, value, (hs rfl).trans hv, hr⟩
      · exact ⟨emitEvents, value, (hs rfl).trans hv, hr⟩
    · exact ⟨bufferTime, value, (hs rfl).trans hv, hr⟩
    · exact ⟨format, value, hp.trans hv, (Variable.format?_eq value).trans hr⟩
  · rintro ⟨k, value, hv, hr⟩
    cases k with
    | ignoreList | extraIgnore | level => cases hr
    | enabled =>
      exact Or.inl ⟨_, by simp, value, (hs rfl).symm.trans hv, (hf value).symm.trans hr⟩
    | caseSensitive =>
      exact Or.inl ⟨_, by simp, value, (hs rfl).symm.trans hv, (hf value).symm.trans hr⟩
    | emitEvents =>
      exact Or.inl ⟨_, by simp, value, (hs rfl).symm.trans hv, (hf value).symm.trans hr⟩
    | bufferTime => exact Or.inr (Or.inl ⟨value, (hs rfl).symm.trans hv, hr⟩)
    | format =>
      exact Or.inr (Or.inr ⟨value, hp.symm.trans hv, (Variable.format?_eq value).symm.trans hr⟩)

lemma firstFault?_isSome_iff_hasMalformed : (firstFault? w).isSome = true ↔ w.HasMalformed := by
  simp only [firstFault?_isSome_iff, hasMalformed_iff, exists_malformed_iff]

end Setting

end TurnTaking
