import TurnTaking.Proofs.Layering
import TurnTaking.Report.Sources

/-! The file is looked at a second time, as it is written, so it is named where this look finds what
loading finds; a setting that only interpolation brings about is said to be built in. -/

namespace TurnTaking

namespace Toml.Entries

def isDated (t : Entries) : Bool := t.head?.any fun e => e.1 = dateKey

def isPlain (t : Entries) : Bool :=
  entriesInspectable t && !t.isDated &&
    ["filter", "logging"].all fun name =>
      match t.get? name with
      | none => true
      | some (.table _ entries) => !isDated entries
      | some _ => false

lemma inspected_of_not_isDated {t : Entries} (h : t.isDated = false) : t.inspected = t := by
  cases t with
  | nil => rfl
  | cons e rest =>
    have hk : e.1 ≠ dateKey := by simpa [isDated] using h
    simp [inspected, hk]

section

variable {t : Entries} (h : t.isPlain = true)

include h

lemma inspectable_of_isPlain : entriesInspectable t = true := by
  simp only [isPlain, Bool.and_eq_true] at h
  exact h.1.1

lemma inspected_of_isPlain : t.inspected = t := by
  simp only [isPlain, Bool.and_eq_true, Bool.not_eq_true'] at h
  exact inspected_of_not_isDated h.1.2

lemma section_of_isPlain (k : Setting) {v : Value} (hv : t.get? k.table = some v) :
    ∃ origin entries, v = .table origin entries ∧ inspected entries = entries := by
  simp only [isPlain, Bool.and_eq_true, List.all_eq_true] at h
  have hs := h.2 k.table (by rcases k.table_eq with ht | ht <;> simp [ht])
  rw [hv] at hs
  cases v with
  | table origin entries =>
    exact ⟨origin, entries, rfl, inspected_of_not_isDated (by simpa using hs)⟩
  | _ => simp at hs

end

end Toml.Entries

namespace Source

inductive Gives (w : World) (o : LoadOptions) (document : Toml.Entries) (k : Setting) :
    Source → k.Value → Prop
  | environment {key text : String} {value : k.Value} :
      k.provided? w = some (key, text) → k.read? text = some value →
      Gives w o document k (.environment key) value
  | file {path : String} {value : k.Value} :
      k.provided? w = none → Settings.resolve w o.path = some path →
      k.inDocument? document = some value → Gives w o document k (.file path) value
  | builtIn :
      k.provided? w = none → k.inDocument? document = none →
      Gives w o document k .builtIn k.default

def Written (w : World) (path : Option String) (k : Setting) : Prop :=
  ∃ p t, path = some p ∧ document? w p = some t ∧ binds t k = true

lemma binds_iff {t : Toml.Entries} (h : t.isPlain = true) (k : Setting) :
    binds t k = true ↔
      ∃ v x, t.get? k.table = some v ∧ v.field? k.key k.position = some x := by
  rw [binds, Toml.Entries.inspected_of_isPlain h]
  cases hv : t.get? k.table with
  | none => simp
  | some v =>
    obtain ⟨origin, entries, rfl, hentries⟩ := Toml.Entries.section_of_isPlain h k hv
    simp [hentries, Toml.Value.field?, Option.isSome_iff_exists]

lemma of_environment {w : World} {k : Setting} {key text : String}
    (h : k.provided? w = some (key, text)) (path : Option String) :
    of w path k = .environment key := by
  simp [of, h]

lemma of_written {w : World} {k : Setting} {p : String} (h : k.provided? w = none)
    (hw : Written w (some p) k) : of w (some p) k = .file p := by
  obtain ⟨p', t, hp, ht, hb⟩ := hw
  obtain rfl := Option.some.inj hp
  simp [of, h, ht, hb]

lemma of_not_written {w : World} {path : Option String} {k : Setting} (h : k.provided? w = none)
    (hw : ¬ Written w path k) : of w path k = .builtIn := by
  cases path with
  | none => simp [of, h]
  | some p =>
    cases ht : document? w p with
    | none => simp [of, h, ht]
    | some t =>
      have hb : binds t k ≠ true := fun hb => hw ⟨p, t, rfl, ht, hb⟩
      simp [of, h, ht, hb]

lemma describe_injective : Function.Injective describe := by
  intro a b h
  have hl : a.describe.toList = b.describe.toList := congrArg String.toList h
  cases a with
  | environment key =>
    cases b with
    | environment key' => simpa [describe] using h
    | file _ | builtIn => simp [describe] at hl
  | file path =>
    cases b with
    | file path' => simpa [describe] using h
    | environment _ | builtIn => simp [describe] at hl
  | builtIn =>
    cases b with
    | builtIn => rfl
    | environment _ | file _ => simp [describe] at hl

end Source

namespace Settings

/-- The file is inspected as it is loaded: interpolation leaves its text alone, and its document is
plain. -/
structure AsWritten (w : World) (o : LoadOptions) (document : Toml.Entries) : Prop where
  text : ∀ path raw, resolve w o.path = some path → w.contents path = .ok raw →
    interpolate w.lookup raw = .ok raw
  plain : document.isPlain = true

variable {w : World} {o : LoadOptions} {document : Toml.Entries}

lemma AsWritten.document?_eq (h : AsWritten w o document) {path raw text : String}
    (hp : resolve w o.path = some path) (hc : w.contents path = .ok raw)
    (hi : interpolate w.lookup raw = .ok text) (hread : Toml.read? text = some document) :
    Source.document? w path = some document := by
  have htext : text = raw := Except.ok.inj (hi.symm.trans (h.text path raw hp hc))
  rw [Source.document?, hc, Except.toOption, Option.bind_some, Toml.inspect?, ← htext, hread,
    Option.filter_some, if_pos (Toml.Entries.inspectable_of_isPlain h.plain)]

lemma written_iff (hd : FileStage w o document) (h : AsWritten w o document) (k : Setting) :
    Source.Written w (resolve w o.path) k ↔ (k.inDocument? document).isSome = true := by
  rw [Layer.isSome_inDocument?_iff hd.ofDocument, ← Source.binds_iff h.plain]
  cases hd with
  | absent hp hr =>
    rw [hp]
    constructor
    · rintro ⟨p, t, hn, -⟩
      cases hn
    · intro hb
      cases hb
  | read hp hc hi hread hl =>
    have hdocument := h.document?_eq hp hc hi hread
    rw [hp]
    constructor
    · rintro ⟨p, t, hp', ht, hb⟩
      obtain rfl := Option.some.inj hp'
      obtain rfl := Option.some.inj (ht.symm.trans hdocument)
      exact hb
    · intro hb
      exact ⟨_, _, rfl, hdocument, hb⟩

lemma read_of_load {s : Settings} (h : load w o = .ok s) {k : Setting} {key text : String}
    (hp : k.provided? w = some (key, text)) : ∃ value, k.read? text = some value := by
  obtain ⟨document, file, hd, -, -⟩ := load_ok h
  obtain ⟨file, hf, -⟩ := hd.layer
  rw [load_eq hf] at h
  cases hv : Setting.firstFault? w with
  | some e => simp [hv] at h
  | none =>
    cases hr : k.read? text with
    | some value => exact ⟨value, rfl⟩
    | none =>
      have hfault := (Setting.firstFault?_isSome_iff w).mpr ⟨k, key, text, hp, hr⟩
      simp [hv] at hfault

lemma gives_of_load {s : Settings} (h : load w o = .ok s) (ho : o.overrides = {})
    (hd : FileStage w o document) (k : Setting) :
    ∃ source, Source.Gives w o document k source (s.get k) := by
  have hvalue : s.get k = ((k.inEnvironment? w).or (k.inDocument? document)).getD k.default := by
    rw [get_of_load h hd, ho]
    cases k with
    | extraIgnore => exact List.append_nil _
    | _ => rfl
  rw [hvalue, Setting.inEnvironment?]
  cases hp : k.provided? w with
  | some v =>
    obtain ⟨key, text⟩ := v
    obtain ⟨value, hr⟩ := read_of_load h hp
    rw [Option.bind_some, hr]
    exact ⟨.environment key, .environment hp hr⟩
  | none =>
    cases hk : k.inDocument? document with
    | none => exact ⟨.builtIn, .builtIn hp hk⟩
    | some value =>
      cases hd with
      | absent => cases hk
      | @read path _ _ _ hpath => exact ⟨.file path, .file hp hpath hk⟩

end Settings

namespace Source

variable {w : World} {o : LoadOptions} {document : Toml.Entries} {k : Setting} {source : Source}
  {value : k.Value}

lemma of_environment_iff (h : Gives w o document k source value) (path : Option String)
    (key : String) : of w path k = .environment key ↔ source = .environment key := by
  cases h with
  | environment hp _ => rw [of_environment hp]
  | file hp _ _ | builtIn hp _ =>
    by_cases hw : Written w path k
    · obtain ⟨p, t, rfl, ht, hb⟩ := hw
      simp [of_written hp ⟨p, t, rfl, ht, hb⟩]
    · simp [of_not_written hp hw]

lemma of_eq_iff (h : Gives w o document k source value) :
    of w (Settings.resolve w o.path) k = source ↔
      (k.provided? w).isSome = true ∨
        (Written w (Settings.resolve w o.path) k ↔ (k.inDocument? document).isSome = true) := by
  cases h with
  | environment hp _ => simp [of_environment hp, hp]
  | @file path _ hp hpath hk =>
    rw [hpath]
    by_cases hw : Written w (some path) k
    · simp [of_written hp hw, hw, hk]
    · simp [of_not_written hp hw, hw, hp, hk]
  | builtIn hp hk =>
    by_cases hw : Written w (Settings.resolve w o.path) k
    · have ⟨path, _, hpath, _⟩ := hw
      rw [hpath] at hw ⊢
      simp [of_written hp hw, hw, hp, hk]
    · simp [of_not_written hp hw, hw, hk]

end Source

namespace Report

lemma load_of_exitCode {w : World} {o : LoadOptions} (h : (sources w o).exitCode = 0) :
    ∃ s, Settings.load w o = .ok s := by
  cases hl : Settings.load w o with
  | ok s => exact ⟨s, rfl⟩
  | error e =>
    rw [sources, hl] at h
    cases e <;> simp [failure, RunError.ofConfig, RunError.exitCode] at h

/-- A report names a variable exactly if the setting comes from it, and the right layer in every
other case if the file, as it is written, binds the settings that loading finds in it. -/
theorem sources_name_layers (w : World) (o : LoadOptions) (ho : o.overrides = {})
    (h : (sources w o).exitCode = 0) :
    ∃ s document, Settings.load w o = .ok s ∧ Settings.FileStage w o document ∧
      (sources w o).output =
        String.intercalate "\n" ("effective config (source precedence: env > file > default):" ::
          Setting.all.map fun k =>
            "- " ++ k.name ++ " = " ++ s.valueText k ++ " (source: " ++
              (Source.of w (Settings.resolve w o.path) k).describe ++ ")") ∧
      ∀ k : Setting,
        let printed := (Source.of w (Settings.resolve w o.path) k).describe
        ∃ source, Source.Gives w o document k source (s.get k) ∧
          (∀ key, printed = (Source.environment key).describe ↔ source = .environment key) ∧
          (printed = source.describe ↔ (k.provided? w).isSome = true ∨
            (Source.Written w (Settings.resolve w o.path) k ↔
              (k.inDocument? document).isSome = true)) ∧
          (Settings.AsWritten w o document → printed = source.describe) := by
  obtain ⟨s, hs⟩ := load_of_exitCode h
  obtain ⟨document, -, hd, -⟩ := Settings.load_ok hs
  refine ⟨s, document, hs, hd, ?_, ?_⟩
  · rw [sources, hs]
    rfl
  · intro k printed
    obtain ⟨source, hg⟩ := Settings.gives_of_load hs ho hd k
    have hiff : printed = source.describe ↔ _ :=
      Source.describe_injective.eq_iff.trans (Source.of_eq_iff hg)
    refine ⟨source, hg, ?_, hiff, ?_⟩
    · intro key
      exact Source.describe_injective.eq_iff.trans (Source.of_environment_iff hg _ key)
    · intro hw
      exact hiff.mpr (Or.inr (Settings.written_iff hd hw k))

theorem sources_name_layers_of_each :
    let w : World := .ofLists [("backchannel.toml", .ok "[filter]\nemit_events = false\n")]
      [("BACKCHANNEL_FILTER_CASE_SENSITIVE", "true")]
    let o : LoadOptions := {}
    o.overrides = {} ∧ (sources w o).exitCode = 0 ∧
      ∃ s document, Settings.load w o = .ok s ∧ Settings.AsWritten w o document ∧
        (∀ k : Setting, Source.Gives w o document k
          (Source.of w (Settings.resolve w o.path) k) (s.get k)) ∧
        [Setting.caseSensitive, .emitEvents, .level].map
            (Source.of w (Settings.resolve w o.path)) =
          [.environment "BACKCHANNEL_FILTER_CASE_SENSITIVE", .file "backchannel.toml", .builtIn] := by
  intro w o
  have hcode : (sources w o).exitCode = 0 := by
    simp only [w, o]
    decide +kernel
  have hpath : Settings.resolve w o.path = some "backchannel.toml" := by decide +kernel
  have hi : interpolate w.lookup "[filter]\nemit_events = false\n" =
      .ok "[filter]\nemit_events = false\n" := by decide +kernel
  have hplain : (Toml.read? "[filter]\nemit_events = false\n").all Toml.Entries.isPlain = true := by
    decide +kernel
  obtain ⟨s, document, hs, hd, -, hsources⟩ := sources_name_layers w o rfl hcode
  have hw : Settings.AsWritten w o document := by
    constructor
    · intro path raw hp hc
      obtain rfl := Option.some.inj (hpath.symm.trans hp)
      obtain rfl := Except.ok.inj hc
      exact hi
    · cases hd with
      | absent hp => simp [hpath] at hp
      | read hp hc hi' hread =>
        obtain rfl := Option.some.inj (hpath.symm.trans hp)
        obtain rfl := Except.ok.inj hc
        obtain rfl := Except.ok.inj (hi.symm.trans hi')
        simpa [hread] using hplain
  refine ⟨rfl, hcode, s, document, hs, hw, ?_, ?_⟩
  · intro k
    obtain ⟨source, hg, -, -, hprinted⟩ := hsources k
    rw [Source.describe_injective (hprinted hw)]
    exact hg
  · simp only [w, o]
    decide +kernel

theorem sources_miss_interpolated_flag :
    let w : World := .ofLists
      [("backchannel.toml", .ok "[filter]\nenabled = $\x7bT_ON\x7d\n")] [("T_ON", "false")]
    let o : LoadOptions := {}
    o.overrides = {} ∧ (sources w o).exitCode = 0 ∧
      ∃ s document, Settings.load w o = .ok s ∧ Settings.FileStage w o document ∧
        Source.Gives w o document .enabled (.file "backchannel.toml") (s.get .enabled) ∧
        sourceLine w (Settings.resolve w o.path) s .enabled =
          "- filter.enabled = false (source: default)" := by
  intro w o
  have h : Settings.load w o = .ok { filter := { enabled := false } } := by
    simp only [w, o]
    decide +kernel
  have hp : Setting.enabled.provided? w = none := by decide +kernel
  have hpath : Settings.resolve w o.path = some "backchannel.toml" := by decide +kernel
  obtain ⟨document, -, hd, -⟩ := Settings.load_ok h
  refine ⟨rfl, ?_, _, document, h, hd, ?_, ?_⟩
  · rw [sources, h]
  · obtain ⟨source, hg⟩ := Settings.gives_of_load h rfl hd .enabled
    generalize hvalue : Settings.get _ .enabled = value at hg ⊢
    cases hg with
    | environment hp' _ => simp [hp] at hp'
    | file hp' hpath' hk =>
      obtain rfl := Option.some.inj (hpath.symm.trans hpath')
      exact .file hp' hpath' hk
    | builtIn => simp [Settings.get, Setting.default] at hvalue
  · rw [sourceLine, hpath]
    simp only [w]
    decide +kernel

end Report

end TurnTaking
