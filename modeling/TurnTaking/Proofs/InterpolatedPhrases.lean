import TurnTaking.Proofs.PhraseLists
import TurnTaking.Proofs.Templates

/-!
A value without quotation marks and backslashes is loaded as it is, within the phrase in which its
expression stands.
-/

namespace TurnTaking

namespace Toml.Value

lemma field?_mapTexts (f : String → String) (v : Value) (key : String) (position : Nat) :
    (v.mapTexts f).field? key position = (v.field? key position).map (mapTexts f) := by
  cases v with
  | table origin entries => exact Entries.get?_mapEntries f key entries
  | array items => rw [mapTexts, field?, field?, mapItems_eq, List.getElem?_map]
  | _ => rfl

lemma asText?_mapTexts (f : String → String) (v : Value) :
    (v.mapTexts f).asText? = v.asText?.map f := by
  cases v <;> rfl

lemma asTexts?_mapTexts (f : String → String) (v : Value) :
    (v.mapTexts f).asTexts? = v.asTexts?.map (List.map f) := by
  cases v with
  | array items =>
    rw [mapTexts, asTexts?, asTexts?]
    induction items with
    | nil => rfl
    | cons v vs ih =>
      rw [mapItems, List.mapM_cons, List.mapM_cons, asText?_mapTexts, ih]
      cases asText? v with
      | none => rfl
      | some s => cases vs.mapM asText? <;> rfl
  | _ => rfl

end Toml.Value

open Toml

namespace Setting

def field? (k : Setting) (document : Entries) : Option Toml.Value :=
  (document.get? k.table).bind fun v => v.field? k.key k.position

lemma inDocument?_eq (k : Setting) (document : Entries) :
    k.inDocument? document = (k.field? document).bind k.ofToml? := by
  rw [inDocument?, field?, Option.bind_assoc]
  rfl

lemma field?_mapEntries (k : Setting) (f : String → String) (document : Entries) :
    k.field? (mapEntries f document) = (k.field? document).map (Toml.Value.mapTexts f) := by
  rw [field?, field?, Entries.get?_mapEntries]
  cases document.get? k.table with
  | none => rfl
  | some v => exact v.field?_mapTexts f k.key k.position

def IsFixed (k : Setting) (template : Entries) : Prop :=
  ∀ x ∈ k.field? template, ∃ v : Toml.Value, x = v.mapTexts Template.ofText

lemma IsFixed.inDocument?_fill {k : Setting} {template : Entries} (h : k.IsFixed template)
    (lookup lookup' : String → Option String) :
    k.inDocument? (mapEntries (Template.fill lookup) template) =
      k.inDocument? (mapEntries (Template.fill lookup') template) := by
  rw [inDocument?_eq, inDocument?_eq, field?_mapEntries, field?_mapEntries]
  cases hx : k.field? template with
  | none => rfl
  | some x =>
    obtain ⟨v, rfl⟩ := h x hx
    rw [Option.map_some, Option.map_some, Toml.Value.mapTexts_inverse Template.fill_ofText,
      Toml.Value.mapTexts_inverse Template.fill_ofText]

end Setting

namespace PhraseList

lemma inDocument?_mapEntries (l : PhraseList) (f : String → String) (document : Entries) :
    l.inDocument? (mapEntries f document) = (l.inDocument? document).map (List.map f) := by
  have hfield (k : Setting) : ((k.field? document).map (Toml.Value.mapTexts f)).bind
      Toml.Value.asTexts? = ((k.field? document).bind Toml.Value.asTexts?).map (List.map f) := by
    cases k.field? document with
    | none => rfl
    | some v => exact v.asTexts?_mapTexts f
  cases l with
  | ignore =>
    rw [inDocument?, inDocument?, Setting.inDocument?_eq, Setting.inDocument?_eq,
      Setting.field?_mapEntries]
    exact hfield .ignoreList
  | extra =>
    rw [inDocument?, inDocument?, Setting.inDocument?_eq, Setting.inDocument?_eq,
      Setting.field?_mapEntries]
    exact hfield .extraIgnore

lemma getElem?_combine (l : PhraseList) (o : Overrides) {ps qs : List String} {i : ℕ}
    (hp : i < ps.length) (hq : i < qs.length) (h : qs[i]? = ps[i]?) :
    (l.combine o qs)[i]? = (l.combine o ps)[i]? := by
  cases l with
  | ignore =>
    rw [combine, combine]
    cases o.ignoreList with
    | none => exact h
    | some phrases => rfl
  | extra => rw [combine, combine, List.getElem?_append_left hq, List.getElem?_append_left hp, h]

end PhraseList

namespace Settings

structure LoadsFrom (raw : String) (w : World) (o : LoadOptions) (s : Settings) : Prop where
  loads : load w o = .ok s
  file : ∃ path, resolve w o.path = some path ∧ w.contents path = .ok raw

variable {raw : String} {parts : List Part} {template : Entries} {w : World} {o : LoadOptions}
  {s : Settings}

lemma LoadsFrom.fileStage (h : LoadsFrom raw w o s) (hparts : Breakdown.IsProper ⟨parts, none⟩)
    (htext : Breakdown.text ⟨parts, none⟩ = raw.toList) (ht : IsTemplate parts template)
    (htame : Tame w.lookup parts) :
    Breakdown.IsSet w.lookup parts ∧ Fits w.lookup parts ∧
      FileStage w o (mapEntries (Template.fill w.lookup) template) := by
  obtain ⟨document, -, hd, -⟩ := load_ok h.loads
  obtain ⟨path, hpath, hraw⟩ := h.file
  cases hd with
  | absent hnone => simp [hnone] at hpath
  | @read path' raw' text _ hpath' hraw' hinterpolate hread hlayer =>
    rw [hpath] at hpath'
    obtain rfl := Option.some.inj hpath'
    rw [hraw] at hraw'
    obtain rfl := Except.ok.inj hraw'
    obtain ⟨-, hset, hfilled⟩ :=
      (Breakdown.interpolate_eq_ok_iff hparts htext text).mp hinterpolate
    obtain rfl : String.ofList (parts.flatMap (Part.filled w.lookup)) = text := by
      rw [← hfilled, String.ofList_toList]
    have hdocument := ht.read? htame
    rw [hread] at hdocument
    by_cases hfits : Fits w.lookup parts
    · rw [if_pos hfits] at hdocument
      obtain rfl := Option.some.inj hdocument
      exact ⟨hset, hfits, .read hpath hraw hinterpolate hread hlayer⟩
    · rw [if_neg hfits] at hdocument
      cases hdocument

lemma get_of_texts {l : PhraseList} {texts : List String} (h : load w o = .ok s)
    (hd : FileStage w o (mapEntries (Template.fill w.lookup) template))
    (hl : l.inDocument? template = some texts) :
    l.get s = l.combine o.overrides (((w.shown? l.variableName).map Layer.readPhrases).getD
      (texts.map (Template.fill w.lookup))) := by
  let a : Loading := ⟨w, o, _, hd⟩
  have hphrases : l.inDocument? a.document = some (texts.map (Template.fill w.lookup)) := by
    rw [l.inDocument?_mapEntries, hl, Option.map_some]
  have hget : l.get s = l.combine a.options.overrides (l.given a) :=
    PhraseList.get_eq fun k => get_of_load h hd k
  rw [hget, l.given_eq, hphrases, Option.getD_or]
  rfl

/-- Settings that load from a file with expressions in quoted texts only, where no value has a
quotation mark or a backslash: each text of a list is one phrase with the values in it as they are.
-/
theorem get_of_template (hparts : Breakdown.IsProper ⟨parts, none⟩)
    (htext : Breakdown.text ⟨parts, none⟩ = raw.toList) (ht : IsTemplate parts template)
    (h : LoadsFrom raw w o s) (htame : Tame w.lookup parts) :
    (Breakdown.IsSet w.lookup parts ∧ Fits w.lookup parts) ∧
    (∀ (l : PhraseList) (texts : List String), l.inDocument? template = some texts →
      l.get s = l.combine o.overrides (((w.shown? l.variableName).map Layer.readPhrases).getD
        (texts.map (Template.fill w.lookup)))) ∧
    ∀ (w' : World) (o' : LoadOptions) (s' : Settings), LoadsFrom raw w' o' s' →
      Tame w'.lookup parts → o'.overrides = o.overrides →
      (∀ k : Setting, k.IsFixed template → k.inEnvironment? w' = k.inEnvironment? w →
        s'.get k = s.get k) ∧
      ∀ (l : PhraseList) (texts : List String) (i : ℕ) (t : String),
        l.inDocument? template = some texts → texts[i]? = some t →
        w'.shown? l.variableName = w.shown? l.variableName →
        (∀ name, .expression name ∈ Template.parts t → w'.lookup name = w.lookup name) →
        (l.get s')[i]? = (l.get s)[i]? := by
  obtain ⟨hset, hfits, hd⟩ := h.fileStage hparts htext ht htame
  refine ⟨⟨hset, hfits⟩, fun l texts hl => get_of_texts h.loads hd hl, ?_⟩
  intro w' o' s' h' htame' hoverrides
  obtain ⟨-, -, hd'⟩ := h'.fileStage hparts htext ht htame'
  constructor
  · intro k hk henvironment
    rw [get_of_load h.loads hd, get_of_load h'.loads hd', henvironment, hoverrides,
      hk.inDocument?_fill w'.lookup w.lookup]
  · intro l texts i t hl hi hshown hvalues
    rw [get_of_texts h.loads hd hl, get_of_texts h'.loads hd' hl, hoverrides, hshown]
    cases w.shown? l.variableName with
    | some value => rfl
    | none =>
      have hlength : i < texts.length := (List.getElem?_eq_some_iff.mp hi).1
      apply l.getElem?_combine o.overrides
      · simpa using hlength
      · simpa using hlength
      · simp [hi, Template.fill_congr hvalues]

theorem get_of_template_with_marks :
    let raw := "[filter]\nextra_ignore = [\"$\x7bT_X\x7d ok\", \"$5\"]\nenabled = true\n"
    let parts := (Breakdown.ofFrom none raw.toList).parts
    let oh : List Part := .expression "T_X" :: " ok".toList.map .char
    let five : List Part := "$5".toList.map .char
    let template : Entries :=
      [("filter", .table .header
        [("extra_ignore", .array ([oh, five].map fun ts => .text (Template.ofParts ts))),
          ("enabled", .boolean true)])]
    let w := World.ofLists [("backchannel.toml", .ok raw)] [("T_X", "'oh] # $\x7bHOME\x7d")]
    let w' := World.ofLists [("backchannel.toml", .ok raw)] [("T_X", "")]
    IsTemplate parts template ∧ (Tame w.lookup parts ∧ Tame w'.lookup parts) ∧
      (∃ s, load w {} = .ok s ∧ s.get .extraIgnore = ["'oh] # $\x7bHOME\x7d ok", "$5"]) ∧
      ∃ s', load w' {} = .ok s' ∧ s'.get .enabled = true ∧
        (s'.get .extraIgnore)[1]? = some "$5" := by
  intro raw parts oh five template w w'
  have hheader : IsStatementText "[filter]".toList (.header ["filter"]) :=
    ⟨⟨_, _, rfl, by decide⟩, fun _ _ _ _ => rfl⟩
  have hgap : IsGap [] := fun _ => rfl
  have hend : IsLineEnd [] := ⟨rfl, fun _ => rfl⟩
  have hfive : Quoted five five := .of_plain (by decide)
  have hoh : Quoted oh oh := .expression (by decide) (.of_plain (by decide))
  have hlist : Written mostDepth
      (.char '[' :: arrayText [] (some (.quoted [' '] five five)) [.quoted [] oh oh])
      (.array ([Item.quoted [] oh oh, .quoted [' '] five five].map Item.value)) := by
    have hblank : IsGap [' '] := fun _ => rfl
    refine .array hgap ?_ ?_ ?_
    · simp [Item.quoted, hgap, hblank]
    · simp [Item.quoted, hgap]
    · simp only [Option.toList_some, List.singleton_append, List.forall_mem_cons]
      exact ⟨.quoted hoh, .quoted hfive, by simp⟩
  have hspace : ∀ c ∈ [' '], isSpace c = true := by simp [isSpace]
  have hextra : IsKeyText "extra_ignore ".toList ["extra_ignore"] := fun _ => rfl
  have henabled : IsKeyText "enabled ".toList ["enabled"] := fun _ => rfl
  have hbinding := WrittenStatement.binding hextra (by rintro _ ⟨⟩; rfl) hspace hlist
  have htrue := Written.plain (isValueText_true mostDepth)
  have hbinding' := WrittenStatement.binding henabled (by rintro _ ⟨⟩; rfl) hspace htrue
  have hnil : skipGap false [] = some [] := rfl
  have hlines := WrittenStatements.line hgap (.plain hheader) hend <|
    .line hgap hbinding hend <| .line hgap hbinding' hend <| .gap hnil
  have ht : IsTemplate parts template := by
    apply IsTemplate.intro (by decide)
    · convert hlines using 1
      decide +kernel
    · rfl
  have hbreakdown : Breakdown.ofFrom none raw.toList = ⟨parts, none⟩ := by decide
  have hparts : Breakdown.IsProper ⟨parts, none⟩ :=
    hbreakdown ▸ Breakdown.isProper_ofFrom none raw.toList (by simp)
  have htext : Breakdown.text ⟨parts, none⟩ = raw.toList :=
    hbreakdown ▸ Breakdown.text_ofFrom none raw.toList
  have hload : load w {} =
      .ok { filter := { extraIgnore := ["'oh] # $\x7bHOME\x7d ok", "$5"] } } := by
    decide +kernel
  have hload' : load w' {} = .ok { filter := { extraIgnore := [" ok", "$5"] } } := by
    decide +kernel
  have hfile : ∃ path, resolve w none = some path ∧ w.contents path = .ok raw :=
    ⟨"backchannel.toml", by decide +kernel, rfl⟩
  have htame : Tame w.lookup parts ∧ Tame w'.lookup parts := by decide +kernel
  obtain ⟨-, hlists, hother⟩ := get_of_template hparts htext ht ⟨hload, hfile⟩ htame.1
  obtain ⟨hfixed, hphrase⟩ := hother w' {} _ ⟨hload', hfile⟩ htame.2 rfl
  have hphrases := hlists .extra _ rfl
  have henabled' : Setting.enabled.IsFixed template := by
    rintro x ⟨⟩
    exact ⟨.boolean true, rfl⟩
  refine ⟨ht, htame, ⟨_, hload, hphrases.trans (by decide +kernel)⟩, _, hload', ?_, ?_⟩
  · exact hfixed .enabled henabled' (by decide +kernel)
  · refine hphrase .extra _ 1 (Template.ofText "$5") rfl rfl (by decide +kernel) ?_
    rw [Template.ofText, Template.parts_ofParts hfive.closed]
    simp [five]

theorem extraIgnore_not_verbatim :
    let loaded := fun element value : String =>
      load (World.ofLists
        [("backchannel.toml", .ok ("[filter]\nextra_ignore = [\"" ++ element ++ "\"]\n"))]
        [("T_X", value)]) {}
    let given := fun phrases : List String =>
      ({ filter := { extraIgnore := phrases } } : Settings)
    loaded "$\x7bT_X\x7d" "yeah\", \"ok" = .ok (given ["yeah", "ok"]) ∧
      loaded "$\x7bT_X\x7d" "yeah\"]\nenabled = false #" =
        .ok { filter := { enabled := false, extraIgnore := ["yeah"] } } ∧
      loaded "$\x7bT_X\x7d" "a\\\\b" = .ok (given ["a\\b"]) ∧
      loaded "\\u00$\x7bT_X\x7d" "41" = .ok (given ["A"]) ∧
      ¬ ∀ (value : String) (s : Settings), loaded "$\x7bT_X\x7d" value = .ok s →
        s.get .extraIgnore = [value] ∧ s.get .enabled = true := by
  intro loaded given
  have hquote : loaded "$\x7bT_X\x7d" "yeah\", \"ok" = .ok (given ["yeah", "ok"]) := by
    decide +kernel
  refine ⟨hquote, by decide +kernel, by decide +kernel, by decide +kernel, ?_⟩
  intro h
  exact absurd (h _ _ hquote).1 (by decide)

end Settings

end TurnTaking
