import TurnTaking.Proofs.NamedLayers
import TurnTaking.World.Directory

namespace TurnTaking

namespace Setting

lemma provided?_congr {w w' : World} {k : Setting}
    (h : ∀ key ∈ k.variableNames, w'.shown? key = w.shown? key) :
    k.provided? w' = k.provided? w := by
  rw [provided?, provided?]
  generalize k.variableNames = keys at h
  induction keys with
  | nil => rfl
  | cons key keys ih =>
    rw [List.forall_mem_cons] at h
    have hk := h.1
    rw [World.shown?, World.shown?] at hk
    rw [List.findSome?_cons, List.findSome?_cons, hk, ih h.2]

lemma variableNames_apart {j k : Setting} (h : j ≠ k) {key : String} (hk : key ∈ k.variableNames) :
    key ∉ j.variableNames := by
  have ht : ∀ j ∈ all, ∀ k ∈ all, j ≠ k → ∀ key ∈ k.variableNames, key ∉ j.variableNames := by
    decide
  exact ht j (mem_all j) k (mem_all k) h key hk

lemma inEnvironment?_congr {w w' : World} {j k : Setting} (h : k ≠ j)
    (hw : ∀ key ∉ j.variableNames, w'.lookup key = w.lookup key) :
    k.inEnvironment? w' = k.inEnvironment? w := by
  have hp : k.provided? w' = k.provided? w := by
    apply provided?_congr
    intro key hk
    rw [World.shown?, World.shown?, hw key (variableNames_apart h.symm hk)]
  rw [inEnvironment?, inEnvironment?, hp]

end Setting

namespace ConfigError

def FromEnvironment : ConfigError → Prop
  | invalidVariable _ _ => True
  | invalid reason => ∃ s, reason = LogFormat.unsupported s
  | _ => False

end ConfigError

lemma LogFormat.head?_unsupported (s : String) : (unsupported s).toList.head? = some 'u' := by
  have hu : unsupported s =
      "unsupported log format \x60" ++ s ++ "\x60 (expected compact|pretty|json)" := rfl
  simp [hu]

namespace Setting

lemma fromEnvironment_refusal (k : Setting) (key value : String) :
    (k.refusal key value).FromEnvironment := by
  rw [refusal]
  split
  · exact ⟨_, rfl⟩
  · trivial

lemma fromEnvironment_of_firstFault? {w : World} {e : ConfigError} (h : firstFault? w = some e) :
    e.FromEnvironment := by
  obtain ⟨k, -, hk⟩ := List.exists_of_findSome?_eq_some h
  obtain ⟨key, value, -, -, rfl⟩ := (fault?_eq_some_iff k w e).mp hk
  exact fromEnvironment_refusal k key value

lemma firstFault?_congr {w w' : World} (h : ∀ key, w'.shown? key = w.shown? key) :
    firstFault? w' = firstFault? w := by
  have hf : (fun k : Setting => k.fault? w') = fun k => k.fault? w := by
    funext k
    rw [fault?, fault?, provided?_congr fun key _ => h key]
  rw [firstFault?, firstFault?, hf]

end Setting

namespace Settings

lemma not_fromEnvironment_of_validate {s : Settings} {e : ConfigError}
    (h : s.validate = .error e) : ¬ e.FromEnvironment := by
  rw [validate, filterConfig] at h
  cases hf : s.filter.filterConfig with
  | error fault =>
    simp only [hf, Except.mapError, bind, Except.bind, Except.error.injEq] at h
    rw [← h]
    exact id
  | ok c =>
    by_cases hl : s.logging.isLevel = true
    · simp [hf, Except.mapError, bind, Except.bind, pure, Except.pure, hl] at h
    · simp only [hf, Except.mapError, bind, Except.bind, if_neg hl] at h
      obtain rfl := (Except.error.inj h).symm
      rintro ⟨t, ht⟩
      have hu := LogFormat.head?_unsupported t
      rw [← ht] at hu
      simp at hu

def layered (file : Layer) (w : World) (o : Overrides) : Settings :=
  ((({} : Settings).apply file).apply (.ofValues fun k => k.inEnvironment? w)).override o

lemma get_layered (file : Layer) (w : World) (o : Overrides) (k : Setting) :
    (layered file w o).get k =
      k.combine (o.get k) (((k.inEnvironment? w).or (file.get k)).getD k.default) := by
  rw [layered, get_override, get_apply, get_apply, Layer.get_ofValues, Option.getD_or]
  rfl

lemma load_eq {w : World} {o : LoadOptions} {file : Layer} (h : fileLayer w o = .ok file) :
    load w o =
      match Setting.firstFault? w with
      | some e => .error e
      | none => (layered file w o.overrides).validate.map fun _ => layered file w o.overrides := by
  rw [load, h, Layer.ofVariables_eq]
  cases Setting.firstFault? w with
  | some e => rfl
  | none =>
    show (layered file w o.overrides).validate.bind _ = _
    cases (layered file w o.overrides).validate <;> rfl

lemma load_ok {w : World} {o : LoadOptions} {s : Settings} (h : load w o = .ok s) :
    ∃ document file, FileStage w o document ∧ (∀ k, file.get k = k.inDocument? document) ∧
      s = layered file w o.overrides := by
  cases hf : fileLayer w o with
  | error e =>
    rw [load, hf] at h
    cases h
  | ok file =>
    obtain ⟨document, hd, hl⟩ := (fileLayer_ok_iff w o file).mp hf
    refine ⟨document, file, hd, Layer.get_ofDocument hl, ?_⟩
    rw [load_eq hf] at h
    cases hv : Setting.firstFault? w with
    | some e => simp [hv] at h
    | none =>
      rw [hv] at h
      cases hs : (layered file w o.overrides).validate with
      | error e => simp [hs, Except.map] at h
      | ok u =>
        simp only [hs, Except.map, Except.ok.injEq] at h
        exact h.symm

lemma load_fromEnvironment_iff {w : World} {o : LoadOptions} {document : Toml.Entries}
    (hd : FileStage w o document) {e : ConfigError} (he : e.FromEnvironment) :
    load w o = .error e ↔ Setting.firstFault? w = some e := by
  obtain ⟨file, hf, -⟩ := hd.layer
  rw [load_eq hf]
  cases hv : Setting.firstFault? w with
  | some e' => simp
  | none =>
    cases hs : (layered file w o.overrides).validate with
    | error e' =>
      have hn := not_fromEnvironment_of_validate hs
      simp only [Except.map, Except.error.injEq, reduceCtorEq, iff_false]
      rintro rfl
      exact hn he
    | ok u => simp [Except.map]

lemma FileStage.unique {w : World} {o : LoadOptions} {document document' : Toml.Entries}
    (h : FileStage w o document) (h' : FileStage w o document') (k : Setting) :
    k.inDocument? document = k.inDocument? document' := by
  obtain ⟨file, hf, hl⟩ := h.layer
  obtain ⟨file', hf', hl'⟩ := h'.layer
  rw [hf] at hf'
  obtain rfl := Except.ok.inj hf'
  rw [← hl, hl']

lemma get_of_load {w : World} {o : LoadOptions} {s : Settings} (h : load w o = .ok s)
    {document : Toml.Entries} (hd : FileStage w o document) (k : Setting) :
    s.get k = k.combine (o.overrides.get k)
      (((k.inEnvironment? w).or (k.inDocument? document)).getD k.default) := by
  obtain ⟨document', file, hd', hl, rfl⟩ := load_ok h
  rw [get_layered, hl, hd.unique hd']

lemma load_congr_shown {w w' : World} {o : LoadOptions}
    (h : ∀ key, w'.shown? key = w.shown? key) (hf : fileLayer w' o = fileLayer w o) :
    load w' o = load w o := by
  have hv : Layer.ofVariables w' = Layer.ofVariables w := by
    have hi : (fun k : Setting => k.inEnvironment? w') = fun k => k.inEnvironment? w := by
      funext k
      rw [Setting.inEnvironment?, Setting.inEnvironment?,
        Setting.provided?_congr fun key _ => h key]
    rw [Layer.ofVariables_eq, Layer.ofVariables_eq, Setting.firstFault?_congr h, hi]
  rw [load, load, hf, hv]

lemma get_of_shown {w : World} {o : LoadOptions} {s : Settings} (h : load w o = .ok s)
    {document : Toml.Entries} (hd : FileStage w o document) {k : Setting} (hk : k ≠ .extraIgnore)
    {value : Option String} (hv : (k.provided? w).map Prod.snd = value) :
    s.get k = ((o.overrides.get k).or ((value.bind k.read?).or
      ((document.at? k.table k.key k.position).bind k.ofToml?))).getD k.default := by
  rw [get_of_load h hd, Setting.combine_of_ne hk, Setting.inEnvironment?_eq_bind, hv,
    Setting.inDocument?_eq_at?, Option.getD_or, Option.getD_or, Option.getD_or]

lemma fromLayers_of_load {w : World} {o : LoadOptions} {s : Settings} (h : load w o = .ok s)
    {document : Toml.Entries} (hd : FileStage w o document) :
    FromLayers w o.overrides document s := by
  have hsingle {k : Setting} (hk : k ≠ .extraIgnore) {name : String}
    (hn : k.variableNames = [name]) := get_of_shown h hd hk (Setting.provided?_of_single w hn)
  have hpair {k : Setting} (hk : k ≠ .extraIgnore) {name other : String}
    (hn : k.variableNames = [name, other]) :=
      get_of_shown h hd hk (Setting.provided?_of_pair w hn)
  constructor
  · rw [← Variable.readFlag?_eq]
    exact hsingle (k := .enabled) (by decide) rfl
  · rw [Option.map_eq_bind]
    exact hsingle (k := .ignoreList) (by decide) rfl
  · have hx := get_of_load h hd .extraIgnore
    rw [Setting.inEnvironment?_of_single w rfl, Setting.inDocument?_eq_at?] at hx
    rw [Option.map_eq_bind]
    exact hx
  · rw [← Variable.readFlag?_eq]
    exact hsingle (k := .caseSensitive) (by decide) rfl
  · exact hsingle (k := .bufferTime) (by decide) rfl
  · rw [← Variable.readFlag?_eq]
    exact hsingle (k := .emitEvents) (by decide) rfl
  · have hl := hpair (k := .level) (by decide) rfl
    rw [show Setting.level.read? = some from rfl, Option.bind_fun_some] at hl
    exact hl
  · rw [← funext Variable.format?_eq]
    exact hpair (k := .format) (by decide) rfl

/-- Every setting comes from the highest layer that gives it, additional phrases apart, which are
added to; what a layer says of one setting has no bearing on another; and once the file is read, the
environment makes loading fail exactly if it gives a setting that cannot be read. -/
theorem load_by_layers (w : World) (o : LoadOptions) :
    (∀ path, resolve w o.path = path ↔ w.Chooses o.path path) ∧
    (∀ s, load w o = .ok s → ∃ document, FileStage w o document ∧
      FromLayers w o.overrides document s) ∧
    (∀ s w' o' s' document document' j, load w o = .ok s → load w' o' = .ok s' →
      FileStage w o document → FileStage w' o' document' →
      (∀ i ≠ j, o'.overrides.get i = o.overrides.get i) →
      (∀ key ∉ j.variableNames, w'.lookup key = w.lookup key) →
      (∀ i ≠ j, i.inDocument? document' = i.inDocument? document) →
      ∀ k ≠ j, s'.get k = s.get k) ∧
    (∀ document, FileStage w o document →
      (∀ e, e.FromEnvironment → (load w o = .error e ↔ Setting.firstFault? w = some e)) ∧
      ((∃ e, load w o = .error e ∧ e.FromEnvironment) ↔ w.HasMalformed)) ∧
    ∀ w', (∀ key, w'.shown? key = w.shown? key) → fileLayer w' o = fileLayer w o →
      load w' o = load w o := by
  refine ⟨World.resolve_eq_iff o.path, ?_, ?_, ?_, ?_⟩
  · intro s h
    obtain ⟨document, -, hd, -⟩ := load_ok h
    exact ⟨document, hd, fromLayers_of_load h hd⟩
  · intro s w' o' s' document document' j h h' hd hd' ho hw hf k hk
    rw [get_of_load h hd, get_of_load h' hd', ho k hk, hf k hk, Setting.inEnvironment?_congr hk hw]
  · intro document hd
    refine ⟨fun e he => load_fromEnvironment_iff hd he, ?_⟩
    rw [← Setting.firstFault?_isSome_iff_hasMalformed, Option.isSome_iff_exists]
    constructor
    · rintro ⟨e, hl, he⟩
      exact ⟨e, (load_fromEnvironment_iff hd he).mp hl⟩
    · rintro ⟨e, hv⟩
      have he := Setting.fromEnvironment_of_firstFault? hv
      exact ⟨e, (load_fromEnvironment_iff hd he).mpr hv, he⟩
  · intro w' h hf
    exact load_congr_shown h hf

lemma eq_some_of_getD {α : Type} {x : Option α} {a b : α} (h : a = x.getD b) (hne : a ≠ b) :
    x = some a := by
  cases x with
  | none => exact absurd h hne
  | some y => exact congrArg some h.symm

theorem load_by_layers_of_each :
    let file := "[filter]\nignore_list = [\"hm\"]\nextra_ignore = [\"$\x7bWHO\x7d\"]\n" ++
      "case_sensitive = true\nbuffer_time_secs = 1\n" ++
      "[logging]\nlevel = \"warn\"\nformat = \"json\"\n"
    let w : World :=
      { contents := (Directory.ofFiles [("config/backchannel.toml", .text file)]).contents
        lookup := (World.ofLists [] [("WHO", "Anna"),
          ("BACKCHANNEL_FILTER_IGNORE_LIST", " Yeah, OK,"), ("BACKCHANNEL_LOGGING_LEVEL", " "),
          ("BACKCHANNEL_LOG_LEVEL", "debug"), ("BACKCHANNEL_FILTER_EMIT_EVENTS", " No")]).lookup }
    let o : LoadOptions := { overrides := { enabled := some true, extraIgnore := ["go on"] } }
    let s : Settings :=
      { filter :=
          { enabled := true, ignoreList := ⟨["Yeah", "OK"]⟩, extraIgnore := ["Anna", "go on"],
            caseSensitive := true, bufferTime := .one, emitEvents := false }
        logging := { level := "debug", format := .json } }
    w.Chooses none (some "config/backchannel.toml") ∧ load w o = .ok s ∧
      ∃ document, FileStage w o document ∧
        (document.at? "filter" "extra_ignore" 2).bind Toml.Value.asTexts? = some ["Anna"] ∧
        (document.at? "filter" "case_sensitive" 3).bind Toml.Value.asBoolean? = some true ∧
        (document.at? "filter" "buffer_time_secs" 4).bind Toml.Value.asNumber? = some .one ∧
        (document.at? "logging" "format" 1).bind Toml.Value.asFormat? = some .json := by
  intro file w o s
  obtain ⟨hpath, hlayers, -⟩ := load_by_layers w o
  have h : load w o = .ok s := by
    simp only [file, w, o, s]
    decide +kernel
  have hresolve : resolve w none = some "config/backchannel.toml" := by
    simp only [file, w]
    decide +kernel
  have hnone : ∀ name ∈ ["BACKCHANNEL_FILTER_EXTRA_IGNORE", "BACKCHANNEL_FILTER_CASE_SENSITIVE",
      "BACKCHANNEL_FILTER_BUFFER_TIME_SECS", "BACKCHANNEL_LOGGING_FORMAT",
      "BACKCHANNEL_LOG_FORMAT"], w.shown? name = none := by
    simp only [file, w]
    decide +kernel
  simp only [List.forall_mem_cons] at hnone
  obtain ⟨hextra, hcase, hbuffer, hlogging, hlog, -⟩ := hnone
  obtain ⟨document, hd, -, -, hx, hc, hb, -, -, hf⟩ := hlayers s h
  rw [hextra] at hx
  rw [hcase] at hc
  rw [hbuffer] at hb
  rw [hlogging, hlog] at hf
  refine ⟨(hpath _).mp hresolve, h, document, hd, ?_, ?_, ?_, ?_⟩
  · have hown : ["Anna"] = _ := List.append_cancel_right hx
    exact eq_some_of_getD hown (by decide)
  · exact eq_some_of_getD hc (by decide)
  · exact eq_some_of_getD hb (by decide)
  · exact eq_some_of_getD hf (by decide)

end Settings

end TurnTaking
