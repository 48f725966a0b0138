import TurnTaking.Proofs.JsonLines
import TurnTaking.Proofs.Layering
import TurnTaking.Proofs.LoadedFilter
import TurnTaking.Proofs.Tokenization
import TurnTaking.Proofs.Trimming

namespace TurnTaking

structure IsPhrase (p : String) : Prop where
  ne_empty : p ≠ ""
  isTrimmed : Text.IsTrimmed p
  not_mem_comma : ',' ∉ p.toList

inductive Listed : List (List Char) → List String → Prop
  | nil : Listed [] []
  | blank {item : List Char} {items : List (List Char)} {phrases : List String} :
      (∀ c ∈ item, Text.isBlank c = true) → Listed items phrases → Listed (item :: items) phrases
  | phrase {before after : List Char} {p : String} {items : List (List Char)}
      {phrases : List String} :
      (∀ c ∈ before, Text.isBlank c = true) → (∀ c ∈ after, Text.isBlank c = true) → IsPhrase p →
      Listed items phrases → Listed ((before ++ p.toList ++ after) :: items) (p :: phrases)

def listText (items : List (List Char)) : String :=
  String.ofList ([','].intercalate items)

namespace Listed

variable {items : List (List Char)} {phrases : List String}

lemma not_mem_comma_of_blank {cs : List Char} (h : ∀ c ∈ cs, Text.isBlank c = true) : ',' ∉ cs := by
  intro hc
  exact absurd (h ',' hc) (by decide)

lemma not_mem_comma (h : Listed items phrases) : ∀ item ∈ items, ',' ∉ item := by
  induction h with
  | nil => simp
  | blank hblank _ ih => exact List.forall_mem_cons.mpr ⟨not_mem_comma_of_blank hblank, ih⟩
  | phrase hbefore hafter hp _ ih =>
    refine List.forall_mem_cons.mpr ⟨?_, ih⟩
    simp [not_mem_comma_of_blank hbefore, not_mem_comma_of_blank hafter, hp.not_mem_comma]

lemma filter_trim (h : Listed items phrases) :
    (items.map fun item => Text.trim (String.ofList item)).filter (fun p => p ≠ "") = phrases := by
  induction h with
  | nil => rfl
  | blank hblank _ ih => simpa [Text.trim_of_blank hblank] using ih
  | phrase hbefore hafter hp _ ih =>
    rw [List.map_cons, Text.trim_padded hbefore hafter hp.isTrimmed hp.ne_empty,
      List.filter_cons_of_pos (by simpa using hp.ne_empty), ih]

lemma readPhrases_listText (h : Listed items phrases) :
    Layer.readPhrases (listText items) = phrases := by
  cases items with
  | nil =>
    cases h
    decide +kernel
  | cons item items =>
    have hp : Text.pieces (· == ',') ([','].intercalate (item :: items)) = item :: items := by
      rw [Text.pieces_eq_splitOnP]
      exact List.splitOn_intercalate ',' h.not_mem_comma (by simp)
    rw [Layer.readPhrases, listText, String.toList_ofList, hp]
    exact h.filter_trim

end Listed

namespace Layer

lemma mem_of_mem_pieces {separates : Char → Bool} {cs piece : List Char}
    (h : piece ∈ Text.pieces separates cs) : ∀ c ∈ piece, c ∈ cs ∧ separates c = false := by
  intro c hc
  have hflat : c ∈ (Text.pieces separates cs).flatten := List.mem_flatten_of_mem h hc
  rw [Text.flatten_pieces] at hflat
  simpa using hflat

lemma isPhrase_of_mem_readPhrases {s p : String} (h : p ∈ readPhrases s) : IsPhrase p := by
  obtain ⟨hm, hne⟩ := List.mem_filter.mp h
  obtain ⟨piece, hpiece, rfl⟩ := List.mem_map.mp hm
  refine ⟨by simpa using hne, Text.isTrimmed_trim _, ?_⟩
  intro hc
  have hcomma := Text.mem_of_mem_trim hc
  rw [String.toList_ofList] at hcomma
  simpa using (mem_of_mem_pieces hpiece ',' hcomma).2

lemma readPhrases_of_blank {s : String} (h : Text.isBlankText s = true) : readPhrases s = [] := by
  rw [Text.isBlankText, List.all_eq_true] at h
  rw [readPhrases, List.filter_eq_nil_iff, List.forall_mem_map]
  intro piece hpiece
  have hblank : ∀ c ∈ piece, Text.isBlank c = true :=
    fun c hc => h c (mem_of_mem_pieces hpiece c hc).1
  simp [Text.trim_of_blank hblank]

end Layer

namespace Settings

structure Loading where
  world : World
  options : LoadOptions
  document : Toml.Entries
  stage : FileStage world options document

namespace Loading

def outcome (a : Loading) : Except ConfigError Settings := load a.world a.options

/-- Two loadings that differ at most in what the file and the environment say of one setting. -/
structure SameBut (j : Setting) (a b : Loading) : Prop where
  overrides : b.options.overrides = a.options.overrides
  lookup : ∀ key ∉ j.variableNames, b.world.lookup key = a.world.lookup key
  inDocument? : ∀ k ≠ j, k.inDocument? b.document = k.inDocument? a.document

def given (a : Loading) (k : Setting) : k.Value :=
  ((k.inEnvironment? a.world).or (k.inDocument? a.document)).getD k.default

end Loading

lemma eq_of_get {s t : Settings} (h : ∀ k, s.get k = t.get k) : s = t := by
  have hignore : s.filter.ignoreList = t.filter.ignoreList := congrArg IgnoreList.mk (h .ignoreList)
  have hfilter : s.filter = t.filter := by
    rw [FilterSettings.mk.injEq]
    exact ⟨h .enabled, hignore, h .extraIgnore, h .caseSensitive, h .bufferTime, h .emitEvents⟩
  have hlogging : s.logging = t.logging := by
    rw [LoggingSettings.mk.injEq]
    exact ⟨h .level, h .format⟩
  rw [Settings.mk.injEq]
  exact ⟨hfilter, hlogging⟩

namespace Loading

variable {a b : Loading}

lemma outcome_eq (a : Loading) : ∃ s : Settings,
    (∀ k, s.get k = k.combine (a.options.overrides.get k) (a.given k)) ∧
    a.outcome =
      match Setting.firstFault? a.world with
      | some e => .error e
      | none => s.validate.map fun _ => s := by
  obtain ⟨file, hf, hl⟩ := a.stage.layer
  refine ⟨layered file a.world a.options.overrides, ?_, load_eq hf⟩
  intro k
  rw [get_layered, hl, given]

lemma outcome_ok_iff (a : Loading) (s : Settings) :
    a.outcome = .ok s ↔ Setting.firstFault? a.world = none ∧ s.validate = .ok () ∧
      ∀ k, s.get k = k.combine (a.options.overrides.get k) (a.given k) := by
  obtain ⟨t, ht, ha⟩ := a.outcome_eq
  rw [ha]
  constructor
  · intro h
    cases hf : Setting.firstFault? a.world with
    | some e => simp [hf] at h
    | none =>
      cases hv : t.validate with
      | error e => simp [hf, hv, Except.map] at h
      | ok u =>
        simp only [hf, hv, Except.map, Except.ok.injEq] at h
        rw [← h]
        exact ⟨rfl, hv, ht⟩
  · rintro ⟨hf, hv, hs⟩
    have hts : t = s := eq_of_get fun k => (ht k).trans (hs k).symm
    rw [hf, hts, hv]
    rfl

namespace SameBut

variable {j : Setting}

lemma inEnvironment? (h : SameBut j a b) {k : Setting} (hk : k ≠ j) :
    k.inEnvironment? b.world = k.inEnvironment? a.world :=
  Setting.inEnvironment?_congr hk h.lookup

lemma given (h : SameBut j a b) {k : Setting} (hk : k ≠ j) : b.given k = a.given k := by
  rw [Loading.given, Loading.given, h.inEnvironment? hk, h.inDocument? k hk]

lemma firstFault? (h : SameBut j a b) (hj : ∀ w, j.fault? w = none) :
    Setting.firstFault? b.world = Setting.firstFault? a.world := by
  have hf : (fun k : Setting => k.fault? b.world) = fun k => k.fault? a.world := by
    funext k
    by_cases hk : k = j
    · rw [hk, hj, hj]
    · have hp : k.provided? b.world = k.provided? a.world := by
        apply Setting.provided?_congr
        intro key hkey
        rw [World.shown?, World.shown?,
          h.lookup key (Setting.variableNames_apart (Ne.symm hk) hkey)]
      rw [Setting.fault?, Setting.fault?, hp]
  rw [Setting.firstFault?, Setting.firstFault?, hf]

lemma outcome (h : SameBut j a b) (hj : ∀ w, j.fault? w = none) (hg : b.given j = a.given j) :
    b.outcome = a.outcome := by
  obtain ⟨s, hs, ha⟩ := a.outcome_eq
  obtain ⟨t, ht, hb⟩ := b.outcome_eq
  have hst : t = s := by
    apply eq_of_get
    intro k
    have hk : b.given k = a.given k := by
      by_cases hkj : k = j
      · rw [hkj, hg]
      · exact h.given hkj
    rw [hs, ht, h.overrides, hk]
  rw [ha, hb, h.firstFault? hj, hst]

end SameBut

end Loading

end Settings

open Settings

inductive PhraseList where
  | ignore
  | extra

namespace PhraseList

def setting : PhraseList → Setting
  | ignore => .ignoreList
  | extra => .extraIgnore

def variableName : PhraseList → String
  | ignore => "BACKCHANNEL_FILTER_IGNORE_LIST"
  | extra => "BACKCHANNEL_FILTER_EXTRA_IGNORE"

def get : PhraseList → Settings → List String
  | ignore, s => s.get .ignoreList
  | extra, s => s.get .extraIgnore

def inDocument? : PhraseList → Toml.Entries → Option (List String)
  | ignore, document => Setting.ignoreList.inDocument? document
  | extra, document => Setting.extraIgnore.inDocument? document

def combine : PhraseList → Overrides → List String → List String
  | ignore, o, phrases => o.ignoreList.getD phrases
  | extra, o, phrases => phrases ++ o.extraIgnore

def given : PhraseList → Loading → List String
  | ignore, a => a.given .ignoreList
  | extra, a => a.given .extraIgnore

variable {l : PhraseList} {a b : Loading}

lemma fault?_setting (l : PhraseList) (w : World) : l.setting.fault? w = none := by
  cases l with
  | ignore => exact Setting.fault?_of_total (fun _ => rfl) w
  | extra => exact Setting.fault?_of_total (fun _ => rfl) w

lemma given_eq (l : PhraseList) (a : Loading) :
    l.given a = (((a.world.shown? l.variableName).map Layer.readPhrases).or
      (l.inDocument? a.document)).getD (l.get {}) := by
  cases l with
  | ignore =>
    rw [given, Loading.given, Setting.inEnvironment?_of_single _ rfl, variableName]
    cases a.world.shown? "BACKCHANNEL_FILTER_IGNORE_LIST" with
    | none => rfl
    | some value => rfl
  | extra =>
    rw [given, Loading.given, Setting.inEnvironment?_of_single _ rfl, variableName]
    cases a.world.shown? "BACKCHANNEL_FILTER_EXTRA_IGNORE" with
    | none => rfl
    | some value => rfl

lemma get_eq {s : Settings}
    (h : ∀ k, s.get k = k.combine (a.options.overrides.get k) (a.given k)) :
    l.get s = l.combine a.options.overrides (l.given a) := by
  cases l with
  | ignore => exact h .ignoreList
  | extra => exact h .extraIgnore

lemma outcome_of_given (h : Loading.SameBut l.setting a b) (hg : l.given b = l.given a) :
    b.outcome = a.outcome := by
  apply h.outcome l.fault?_setting
  cases l with
  | ignore => exact hg
  | extra => exact hg

lemma exists_get_ne_nil_iff (s : Settings) :
    (∃ l : PhraseList, l.get s ≠ []) ↔ s.filter.toConfig.ignoreList.phrases ≠ [] := by
  have hphrases : s.filter.toConfig.ignoreList.phrases = ignore.get s ++ extra.get s := rfl
  rw [hphrases, ne_eq, List.append_eq_nil_iff, not_and_or]
  constructor
  · rintro ⟨l, hl⟩
    cases l with
    | ignore => exact Or.inl hl
    | extra => exact Or.inr hl
  · rintro (h | h)
    · exact ⟨ignore, h⟩
    · exact ⟨extra, h⟩

lemma validate_ok_iff (s : Settings) :
    s.validate = .ok () ↔
      FilterConfig.isBufferTime (s.get .bufferTime) = true ∧
        (s.get .enabled = true → ∃ l : PhraseList, l.get s ≠ []) ∧
        ({ level := s.get .level } : LoggingSettings).isLevel = true := by
  rw [Settings.validate_ok_iff, FilterConfig.error?_eq_none_iff, exists_get_ne_nil_iff, and_assoc]
  rfl

lemma exists_outcome (h : Loading.SameBut l.setting a b) (hg : l.given b ≠ []) {s : Settings}
    (hs : a.outcome = .ok s) : ∃ t, b.outcome = .ok t := by
  obtain ⟨hfault, hvalid, hget⟩ := (a.outcome_ok_iff s).mp hs
  obtain ⟨htime, hphrases, hlevel⟩ := (validate_ok_iff s).mp hvalid
  obtain ⟨t, ht, -⟩ := b.outcome_eq
  have hother (k : Setting) (hk : k ≠ l.setting) : t.get k = s.get k := by
    rw [ht, hget, h.overrides, h.given hk]
  have hsome : l.get t ≠ [] ∨ ∀ l : PhraseList, l.get t = l.get s := by
    rw [get_eq ht, h.overrides]
    cases l with
    | extra => exact Or.inl (List.append_ne_nil_of_left_ne_nil hg _)
    | ignore =>
      cases ho : a.options.overrides.ignoreList with
      | none => exact Or.inl (by simpa [combine, ho] using hg)
      | some phrases =>
        right
        intro l
        cases l with
        | extra => exact hother .extraIgnore (by decide)
        | ignore => rw [get_eq ht, get_eq hget, h.overrides, combine, combine, ho]; rfl
  refine ⟨t, (b.outcome_ok_iff t).mpr ⟨?_, (validate_ok_iff t).mpr ⟨?_, ?_, ?_⟩, ht⟩⟩
  · rw [h.firstFault? l.fault?_setting, hfault]
  · rw [hother .bufferTime (by cases l <;> decide)]
    exact htime
  · intro henabled
    rw [hother .enabled (by cases l <;> decide)] at henabled
    rcases hsome with hl | hl
    · exact ⟨l, hl⟩
    · obtain ⟨l', hl'⟩ := hphrases henabled
      exact ⟨l', hl l' ▸ hl'⟩
  · rw [hother .level (by cases l <;> decide)]
    exact hlevel

lemma given_of_provided {value : String} (h : a.world.lookup l.variableName = some value)
    (hv : Text.isBlankText value = false) : l.given a = Layer.readPhrases value := by
  rw [given_eq, World.shown?, h, Option.filter_some, hv, Bool.not_false, if_pos rfl,
    Option.map_some, Option.some_or, Option.getD_some]

lemma given_of_not_provided (h : a.world.shown? l.variableName = none) :
    l.given a = (l.inDocument? a.document).getD (l.get {}) := by
  rw [given_eq, h, Option.map_none, Option.none_or]

/-- A list that is written into its variable, with whatever blanks and blank items, is loaded as its
phrases in their order, and the outcome is that of a file that gives the same phrases. -/
theorem load_written (l : PhraseList) :
    (∀ (items : List (List Char)) (phrases : List String), Listed items phrases → phrases ≠ [] →
      ∀ a : Loading, a.world.lookup l.variableName = some (listText items) →
      (∀ s, a.outcome = .ok s → l.get s = l.combine a.options.overrides phrases) ∧
      ∀ b : Loading, Loading.SameBut l.setting b a → b.world.lookup l.variableName = none →
        (l.inDocument? b.document = some phrases → a.outcome = b.outcome) ∧
        ∀ t, b.outcome = .ok t → ∃ s, a.outcome = .ok s) ∧
    ∀ (a : Loading) (value : String), a.world.lookup l.variableName = some value →
      (∀ p ∈ Layer.readPhrases value, IsPhrase p) ∧
      ∀ s, a.outcome = .ok s → l.get s = l.combine a.options.overrides
        (if Text.isBlankText value then (l.inDocument? a.document).getD (l.get {})
          else Layer.readPhrases value) := by
  constructor
  · intro items phrases hitems hne a ha
    have hread := hitems.readPhrases_listText
    have hvalue : Text.isBlankText (listText items) = false := by
      by_contra hblank
      rw [Bool.not_eq_false] at hblank
      exact hne (hread.symm.trans (Layer.readPhrases_of_blank hblank))
    have hgiven : l.given a = phrases := (given_of_provided ha hvalue).trans hread
    refine ⟨?_, ?_⟩
    · intro s hs
      rw [get_eq ((a.outcome_ok_iff s).mp hs).2.2, hgiven]
    · intro b hab hb
      refine ⟨?_, ?_⟩
      · intro hdocument
        apply outcome_of_given hab
        have hshown : b.world.shown? l.variableName = none := by rw [World.shown?, hb]; rfl
        rw [hgiven, given_of_not_provided hshown, hdocument]
        rfl
      · intro t ht
        exact exists_outcome hab (hgiven ▸ hne) ht
  · intro a value ha
    refine ⟨fun p => Layer.isPhrase_of_mem_readPhrases, ?_⟩
    intro s hs
    rw [get_eq ((a.outcome_ok_iff s).mp hs).2.2]
    cases hv : Text.isBlankText value with
    | true =>
      have hshown : a.world.shown? l.variableName = none := by
        rw [World.shown?, ha, Option.filter_some, hv]
        rfl
      rw [given_of_not_provided hshown, if_pos rfl]
    | false => rw [given_of_provided ha hv, if_neg (by simp)]

theorem load_written_spacious :
    let items := [[' '] ++ "yeah".toList ++ [], [], [] ++ "uh-huh".toList ++ ['\u3000'],
      [' ', '\t'], [] ++ "yeah".toList ++ []]
    let phrases := ["yeah", "uh-huh", "yeah"]
    let w := World.ofLists [] [("BACKCHANNEL_FILTER_IGNORE_LIST", listText items)]
    let w' := World.ofLists
      [("backchannel.toml",
        .ok "[filter]\nignore_list = [\"yeah\", \"uh-huh\", \"yeah\"]\n")] []
    Listed items phrases ∧ (∃ s, Settings.load w {} = .ok s ∧ s.get .ignoreList = phrases) ∧
      Settings.load w {} = Settings.load w' {} := by
  intro items phrases w w'
  have hyeah : IsPhrase "yeah" := ⟨by decide, Text.isTrimmed_of_no_blank (by decide), by decide⟩
  have huh : IsPhrase "uh-huh" := ⟨by decide, Text.isTrimmed_of_no_blank (by decide), by decide⟩
  have hblank {cs : List Char} (h : cs.all Text.isBlank = true) :
      ∀ c ∈ cs, Text.isBlank c = true := List.all_eq_true.mp h
  have hitems : Listed items phrases :=
    .phrase (hblank rfl) (hblank rfl) hyeah <| .blank (hblank rfl) <|
      .phrase (hblank rfl) (hblank rfl) huh <| .blank (hblank rfl) <|
        .phrase (hblank rfl) (hblank rfl) hyeah .nil
  have hfile : Settings.fileLayer w' {} = .ok { ignoreList := some phrases } := by decide +kernel
  obtain ⟨document, hstage, hlayer⟩ := (Settings.fileLayer_ok_iff w' {} _).mp hfile
  have hdocument (k : Setting) := Layer.get_ofDocument hlayer k
  let a : Loading := ⟨w, {}, [], .absent (by decide +kernel) rfl⟩
  let b : Loading := ⟨w', {}, document, hstage⟩
  have hsame : Loading.SameBut PhraseList.ignore.setting b a := by
    refine ⟨rfl, ?_, ?_⟩
    · intro key hkey
      have hne : "BACKCHANNEL_FILTER_IGNORE_LIST" ≠ key := by
        rintro rfl
        exact hkey (by decide)
      simp [a, b, w, w', World.ofLists, hne]
    · intro k hk
      show _ = k.inDocument? document
      rw [← hdocument]
      cases k with
      | ignoreList => exact absurd rfl hk
      | _ => rfl
  have hload : a.outcome = .ok { filter := { ignoreList := ⟨phrases⟩ } } := by decide +kernel
  have hset : a.world.lookup PhraseList.ignore.variableName = some (listText items) := rfl
  obtain ⟨hget, hsettings⟩ := (load_written .ignore).1 items phrases hitems (by decide) a hset
  exact ⟨hitems, ⟨_, hload, hget _ hload⟩, (hsettings b hsame rfl).1 (hdocument .ignoreList).symm⟩

end PhraseList

end TurnTaking
