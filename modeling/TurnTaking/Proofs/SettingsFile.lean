import TurnTaking.Proofs.SettingValues

namespace TurnTaking

namespace Toml.Value

def field? (v : Value) (key : String) (position : Nat) : Option Value :=
  match v with
  | table _ entries => Entries.get? key entries
  | array items => items[position]?
  | _ => none

lemma getElem?_fields {v : Value} {keys : List String} {xs : List (Option Value)}
    (h : v.fields? keys = some xs) {i : Nat} {key : String} (hk : keys[i]? = some key) :
    xs[i]? = some (v.field? key i) := by
  have hn : i < keys.length := (List.getElem?_eq_some_iff.mp hk).1
  cases v with
  | table origin entries =>
    obtain rfl := Option.some.inj h
    rw [List.getElem?_map, hk]
    rfl
  | array items =>
    rw [fields?] at h
    split at h
    · rename_i hl
      obtain rfl := Option.some.inj h
      have hi : i < items.length := by omega
      simp [field?, hn, hi]
    · cases h
  | moment =>
    obtain rfl := Option.some.inj h
    rw [List.getElem?_map, hk]
    rfl
  | _ => cases h

end Toml.Value

namespace Setting

def position : Setting → Nat
  | enabled | level => 0
  | ignoreList | format => 1
  | extraIgnore => 2
  | caseSensitive => 3
  | bufferTime => 4
  | emitEvents => 5

def ofToml? : (k : Setting) → Toml.Value → Option k.Value
  | enabled => Toml.Value.asBoolean?
  | caseSensitive => Toml.Value.asBoolean?
  | emitEvents => Toml.Value.asBoolean?
  | ignoreList => Toml.Value.asTexts?
  | extraIgnore => Toml.Value.asTexts?
  | bufferTime => Toml.Value.asNumber?
  | level => Toml.Value.asText?
  | format => Toml.Value.asFormat?

def inSection? (k : Setting) (v : Toml.Value) : Option k.Value :=
  (v.field? k.key k.position).bind k.ofToml?

def inDocument? (k : Setting) (document : Toml.Entries) : Option k.Value :=
  (document.get? k.table).bind k.inSection?

lemma table_eq (k : Setting) : k.table = "filter" ∨ k.table = "logging" := by
  cases k <;> decide

end Setting

namespace Layer

lemma optional_eq {α : Type} {read : Toml.Value → Option α} {x : Option Toml.Value} {y : Option α}
    (h : optional read x = some y) : y = x.bind read := by
  cases x with
  | none => exact (Option.some.inj h).symm
  | some v =>
    obtain ⟨a, ha, rfl⟩ := Option.map_eq_some_iff.mp h
    simp [ha]

lemma optional_field {v : Toml.Value} {keys : List String} {xs : List (Option Toml.Value)}
    (hx : v.fields? keys = some xs) {k : Setting} (hk : keys[k.position]? = some k.key)
    {x : Option Toml.Value} (hi : xs[k.position]? = some x) {y : Option k.Value}
    (hy : optional k.ofToml? x = some y) :
    optional k.ofToml? (v.field? k.key k.position) = some y := by
  have hf := Toml.Value.getElem?_fields hx hk
  rw [hi] at hf
  rw [← Option.some.inj hf]
  exact hy

lemma optional_ofFilter {l l' : Layer} {v : Toml.Value} (h : l.ofFilter v = some l')
    (k : Setting) :
    (k.table = "filter" → optional k.ofToml? (v.field? k.key k.position) = some (l'.get k)) ∧
      (k.table ≠ "filter" → l'.get k = l.get k) := by
  rw [ofFilter] at h
  obtain ⟨xs, hx, h⟩ := Option.bind_eq_some_iff.mp h
  split at h
  · obtain ⟨enabled, he, h⟩ := Option.bind_eq_some_iff.mp h
    obtain ⟨ignoreList, hi, h⟩ := Option.bind_eq_some_iff.mp h
    obtain ⟨extraIgnore, hm, h⟩ := Option.bind_eq_some_iff.mp h
    obtain ⟨caseSensitive, hc, h⟩ := Option.bind_eq_some_iff.mp h
    obtain ⟨bufferTime, hb, h⟩ := Option.bind_eq_some_iff.mp h
    obtain ⟨emitEvents, hv, h⟩ := Option.bind_eq_some_iff.mp h
    obtain rfl := Option.some.inj h
    cases k with
    | level | format => exact ⟨fun ht => absurd ht (by decide), fun _ => rfl⟩
    | enabled => exact ⟨fun _ => optional_field (k := .enabled) hx rfl rfl he, absurd rfl⟩
    | ignoreList => exact ⟨fun _ => optional_field (k := .ignoreList) hx rfl rfl hi, absurd rfl⟩
    | extraIgnore => exact ⟨fun _ => optional_field (k := .extraIgnore) hx rfl rfl hm, absurd rfl⟩
    | caseSensitive =>
      exact ⟨fun _ => optional_field (k := .caseSensitive) hx rfl rfl hc, absurd rfl⟩
    | bufferTime => exact ⟨fun _ => optional_field (k := .bufferTime) hx rfl rfl hb, absurd rfl⟩
    | emitEvents => exact ⟨fun _ => optional_field (k := .emitEvents) hx rfl rfl hv, absurd rfl⟩
  · cases h

lemma optional_ofLogging {l l' : Layer} {v : Toml.Value} (h : l.ofLogging v = some l')
    (k : Setting) :
    (k.table = "logging" → optional k.ofToml? (v.field? k.key k.position) = some (l'.get k)) ∧
      (k.table ≠ "logging" → l'.get k = l.get k) := by
  rw [ofLogging] at h
  obtain ⟨xs, hx, h⟩ := Option.bind_eq_some_iff.mp h
  split at h
  · obtain ⟨level, hl, h⟩ := Option.bind_eq_some_iff.mp h
    obtain ⟨format, hf, h⟩ := Option.bind_eq_some_iff.mp h
    obtain rfl := Option.some.inj h
    cases k with
    | level => exact ⟨fun _ => optional_field (k := .level) hx rfl rfl hl, absurd rfl⟩
    | format => exact ⟨fun _ => optional_field (k := .format) hx rfl rfl hf, absurd rfl⟩
    | _ => exact ⟨fun ht => absurd ht (by decide), fun _ => rfl⟩
  · cases h

lemma get_ofFilter {l l' : Layer} {v : Toml.Value} (h : l.ofFilter v = some l') (k : Setting) :
    l'.get k = if k.table = "filter" then k.inSection? v else l.get k := by
  obtain ⟨hin, hout⟩ := optional_ofFilter h k
  split
  · rename_i ht
    exact optional_eq (hin ht)
  · rename_i ht
    exact hout ht

lemma get_ofLogging {l l' : Layer} {v : Toml.Value} (h : l.ofLogging v = some l') (k : Setting) :
    l'.get k = if k.table = "logging" then k.inSection? v else l.get k := by
  obtain ⟨hin, hout⟩ := optional_ofLogging h k
  split
  · rename_i ht
    exact optional_eq (hin ht)
  · rename_i ht
    exact hout ht

@[simp] lemma get_empty (k : Setting) : ({} : Layer).get k = none := by
  cases k <;> rfl

def withSection (name : String) (read : Layer → Toml.Value → Option Layer)
    (document : Toml.Entries) (l : Layer) : Option Layer :=
  match document.get? name with
  | none => some l
  | some v => read l v

lemma ofDocument_eq (document : Toml.Entries) :
    ofDocument document =
      (withSection "filter" ofFilter document {}).bind
        (withSection "logging" ofLogging document) := by
  rw [ofDocument, withSection]
  cases document.get? "filter" <;> rfl

lemma get_withSection {name : String} {read : Layer → Toml.Value → Option Layer}
    {document : Toml.Entries} {l l' : Layer} {k : Setting}
    (hr : ∀ v, read l v = some l' → l'.get k = if k.table = name then k.inSection? v else l.get k)
    (hl : k.table = name → l.get k = none) (h : withSection name read document l = some l') :
    l'.get k = if k.table = name then k.inDocument? document else l.get k := by
  rw [withSection] at h
  cases hd : document.get? name with
  | none =>
    rw [hd] at h
    obtain rfl := Option.some.inj h
    split
    · rename_i ht
      rw [hl ht, Setting.inDocument?, ht, hd]
      rfl
    · rfl
  | some v =>
    rw [hd] at h
    rw [hr v h]
    split
    · rename_i ht
      rw [Setting.inDocument?, ht, hd]
      rfl
    · rfl

lemma get_ofDocument {document : Toml.Entries} {l : Layer} (h : ofDocument document = some l)
    (k : Setting) : l.get k = k.inDocument? document := by
  rw [ofDocument_eq] at h
  obtain ⟨l', hf, hg⟩ := Option.bind_eq_some_iff.mp h
  have hl' := get_withSection (k := k) (fun v hv => get_ofFilter hv k) (fun _ => get_empty k) hf
  have hs : k.table = "logging" → l'.get k = none := by
    intro ht
    rw [hl', ht]
    exact get_empty k
  have hl := get_withSection (k := k) (fun v hv => get_ofLogging hv k) hs hg
  rcases k.table_eq with ht | ht
  · rw [hl, hl', ht]
    rfl
  · rw [hl, ht]
    rfl

lemma isSome_of_optional {α : Type} {read : Toml.Value → Option α} {x : Toml.Value} {y : Option α}
    (h : optional read (some x) = some y) : (read x).isSome = true := by
  obtain ⟨a, ha, -⟩ := Option.map_eq_some_iff.mp h
  simp [ha]

lemma isSome_inDocument?_iff {document : Toml.Entries} (h : (ofDocument document).isSome = true)
    (k : Setting) :
    (k.inDocument? document).isSome = true ↔
      ∃ v x, document.get? k.table = some v ∧ v.field? k.key k.position = some x := by
  constructor
  · intro hs
    obtain ⟨y, hy⟩ := Option.isSome_iff_exists.mp hs
    obtain ⟨v, hv, hk⟩ := Option.bind_eq_some_iff.mp hy
    obtain ⟨x, hx, -⟩ := Option.bind_eq_some_iff.mp hk
    exact ⟨v, x, hv, hx⟩
  · rintro ⟨v, x, hv, hx⟩
    obtain ⟨l, hl⟩ := Option.isSome_iff_exists.mp h
    rw [ofDocument_eq] at hl
    obtain ⟨l', hf, hg⟩ := Option.bind_eq_some_iff.mp hl
    have hr : (k.ofToml? x).isSome = true := by
      rcases k.table_eq with ht | ht
      · rw [withSection, ← ht, hv] at hf
        have ho := (optional_ofFilter hf k).1 ht
        rw [hx] at ho
        exact isSome_of_optional ho
      · rw [withSection, ← ht, hv] at hg
        have ho := (optional_ofLogging hg k).1 ht
        rw [hx] at ho
        exact isSome_of_optional ho
    rw [Setting.inDocument?, hv, Option.bind_some, Setting.inSection?, hx, Option.bind_some]
    exact hr

lemma ofFile_ok_iff (w : World) (path : String) (l : Layer) :
    ofFile w path = .ok l ↔
      ∃ raw text document, w.contents path = .ok raw ∧ interpolate w.lookup raw = .ok text ∧
        Toml.read? text = some document ∧ ofDocument document = some l := by
  rw [ofFile]
  cases hc : w.contents path with
  | error fault => simp [Except.mapError, bind, Except.bind]
  | ok raw =>
    cases hi : interpolate w.lookup raw with
    | error fault => simp [Except.mapError, bind, Except.bind, hi]
    | ok text =>
      cases hd : Toml.read? text with
      | none => simp [Except.mapError, bind, Except.bind, hi, hd]
      | some document =>
        cases ho : ofDocument document with
        | none => simp [Except.mapError, bind, Except.bind, hi, hd, ho]
        | some l' => simp [Except.mapError, bind, Except.bind, pure, Except.pure, hi, hd, ho]

end Layer

namespace Settings

inductive FileStage (w : World) (o : LoadOptions) : Toml.Entries → Prop where
  | absent : resolve w o.path = none → o.requireFile = false → FileStage w o []
  | read {path raw text : String} {document : Toml.Entries} :
      resolve w o.path = some path → w.contents path = .ok raw →
      interpolate w.lookup raw = .ok text → Toml.read? text = some document →
      (Layer.ofDocument document).isSome = true → FileStage w o document

lemma fileLayer_ok_iff (w : World) (o : LoadOptions) (l : Layer) :
    fileLayer w o = .ok l ↔
      ∃ document, FileStage w o document ∧ Layer.ofDocument document = some l := by
  rw [fileLayer]
  constructor
  · intro h
    cases hp : resolve w o.path with
    | none =>
      rw [hp] at h
      cases hr : o.requireFile with
      | true => simp [hr] at h
      | false =>
        simp only [hr, Bool.false_eq_true, if_false, Except.ok.injEq] at h
        exact ⟨[], .absent hp hr, congrArg some h⟩
    | some path =>
      rw [hp] at h
      obtain ⟨raw, text, document, hc, hi, hd, hl⟩ := (Layer.ofFile_ok_iff w path l).mp h
      exact ⟨document, .read hp hc hi hd (by simp [hl]), hl⟩
  · rintro ⟨document, hs, hl⟩
    cases hs with
    | absent hp hr =>
      rw [hp, hr]
      exact congrArg Except.ok (Option.some.inj hl)
    | @read path raw text _ hp hc hi hd =>
      rw [hp]
      exact (Layer.ofFile_ok_iff w path l).mpr ⟨raw, text, document, hc, hi, hd, hl⟩

lemma FileStage.ofDocument {w : World} {o : LoadOptions} {document : Toml.Entries}
    (h : FileStage w o document) : (Layer.ofDocument document).isSome = true := by
  cases h with
  | absent => rfl
  | read _ _ _ _ hl => exact hl

lemma FileStage.layer {w : World} {o : LoadOptions} {document : Toml.Entries}
    (h : FileStage w o document) :
    ∃ l, fileLayer w o = .ok l ∧ ∀ k, l.get k = k.inDocument? document := by
  obtain ⟨l, hl⟩ := Option.isSome_iff_exists.mp h.ofDocument
  exact ⟨l, (fileLayer_ok_iff w o l).mpr ⟨document, h, hl⟩, Layer.get_ofDocument hl⟩

end Settings

end TurnTaking
