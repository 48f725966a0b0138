import Mathlib.Tactic.Common
import TurnTaking.Settings.Load

/-! Each operation on whole layers acts on every setting by itself. -/

namespace TurnTaking

namespace Setting

abbrev Value : Setting → Type
  | enabled | caseSensitive | emitEvents => Bool
  | ignoreList | extraIgnore => List String
  | bufferTime => Binary
  | level => String
  | format => LogFormat

end Setting

def Settings.get (s : Settings) : (k : Setting) → k.Value
  | .enabled => s.filter.enabled
  | .ignoreList => s.filter.ignoreList.phrases
  | .extraIgnore => s.filter.extraIgnore
  | .caseSensitive => s.filter.caseSensitive
  | .bufferTime => s.filter.bufferTime
  | .emitEvents => s.filter.emitEvents
  | .level => s.logging.level
  | .format => s.logging.format

namespace Layer

def get (l : Layer) : (k : Setting) → Option k.Value
  | .enabled => l.enabled
  | .ignoreList => l.ignoreList
  | .extraIgnore => l.extraIgnore
  | .caseSensitive => l.caseSensitive
  | .bufferTime => l.bufferTime
  | .emitEvents => l.emitEvents
  | .level => l.level
  | .format => l.format

def ofValues (f : (k : Setting) → Option k.Value) : Layer where
  enabled := f .enabled
  ignoreList := f .ignoreList
  extraIgnore := f .extraIgnore
  caseSensitive := f .caseSensitive
  bufferTime := f .bufferTime
  emitEvents := f .emitEvents
  level := f .level
  format := f .format

@[simp] lemma get_ofValues (f : (k : Setting) → Option k.Value) (k : Setting) :
    (ofValues f).get k = f k := by
  cases k <;> rfl

end Layer

def Overrides.get (o : Overrides) : (k : Setting) → Option k.Value
  | .enabled => o.enabled
  | .ignoreList => o.ignoreList
  | .extraIgnore => some o.extraIgnore
  | .caseSensitive => o.caseSensitive
  | .bufferTime => o.bufferTime
  | .emitEvents => o.emitEvents
  | .level => o.level
  | .format => o.format

namespace Setting

def default (k : Setting) : k.Value := ({} : Settings).get k

def combine : (k : Setting) → Option k.Value → k.Value → k.Value
  | extraIgnore, asked, value => List.append value (asked.getD [])
  | enabled, asked, value => asked.getD value
  | ignoreList, asked, value => asked.getD value
  | caseSensitive, asked, value => asked.getD value
  | bufferTime, asked, value => asked.getD value
  | emitEvents, asked, value => asked.getD value
  | level, asked, value => asked.getD value
  | format, asked, value => asked.getD value

lemma combine_of_ne {k : Setting} (h : k ≠ extraIgnore) (asked : Option k.Value) (value : k.Value) :
    k.combine asked value = asked.getD value := by
  cases k with
  | extraIgnore => exact absurd rfl h
  | _ => rfl

end Setting

namespace Settings

lemma get_apply (s : Settings) (l : Layer) (k : Setting) :
    (s.apply l).get k = (l.get k).getD (s.get k) := by
  cases k with
  | ignoreList => cases h : l.ignoreList <;> simp [get, Layer.get, apply, h]
  | _ => rfl

lemma get_override (s : Settings) (o : Overrides) (k : Setting) :
    (s.override o).get k = k.combine (o.get k) (s.get k) := by
  cases k with
  | ignoreList => exact get_apply s _ .ignoreList
  | _ => rfl

end Settings

namespace Setting

def read? : (k : Setting) → String → Option k.Value
  | enabled => Layer.readFlag?
  | caseSensitive => Layer.readFlag?
  | emitEvents => Layer.readFlag?
  | ignoreList => fun value => some (Layer.readPhrases value)
  | extraIgnore => fun value => some (Layer.readPhrases value)
  | bufferTime => Layer.readNumber?
  | level => some
  | format => fun value => (LogFormat.read value).toOption

def inEnvironment? (k : Setting) (w : World) : Option k.Value :=
  (k.provided? w).bind fun v => k.read? v.2

def refusal (k : Setting) (key value : String) : ConfigError :=
  if k = format then .invalid (LogFormat.unsupported (LogFormat.normalize value))
  else .invalidVariable key value

def fault? (k : Setting) (w : World) : Option ConfigError :=
  (k.provided? w).bind fun v => if (k.read? v.2).isSome then none else some (k.refusal v.1 v.2)

def firstFault? (w : World) : Option ConfigError :=
  all.findSome? fun k => k.fault? w

lemma fault?_eq_some_iff (k : Setting) (w : World) (e : ConfigError) :
    k.fault? w = some e ↔
      ∃ key value, k.provided? w = some (key, value) ∧ k.read? value = none ∧
        k.refusal key value = e := by
  rw [fault?]
  cases hp : k.provided? w with
  | none => simp
  | some v =>
    obtain ⟨key, value⟩ := v
    cases hr : k.read? value with
    | none => simp [hr]
    | some x => simp [hr]

lemma mem_all (k : Setting) : k ∈ all := by
  cases k <;> decide

lemma firstFault?_isSome_iff (w : World) :
    (firstFault? w).isSome = true ↔
      ∃ (k : Setting) (key value : String), k.provided? w = some (key, value) ∧
        k.read? value = none := by
  rw [firstFault?, List.findSome?_isSome_iff]
  constructor
  · rintro ⟨k, -, hk⟩
    obtain ⟨e, he⟩ := Option.isSome_iff_exists.mp hk
    obtain ⟨key, value, hp, hr, -⟩ := (fault?_eq_some_iff k w e).mp he
    exact ⟨k, key, value, hp, hr⟩
  · rintro ⟨k, key, value, hp, hr⟩
    refine ⟨k, mem_all k, Option.isSome_iff_exists.mpr ⟨k.refusal key value, ?_⟩⟩
    exact (fault?_eq_some_iff k w _).mpr ⟨key, value, hp, hr, rfl⟩

def consult (k : Setting) (w : World) : Except ConfigError (Option k.Value) :=
  match k.fault? w with
  | some e => .error e
  | none => .ok (k.inEnvironment? w)

lemma fromVariable_eq {k : Setting} (h : k ≠ format) (w : World) :
    Layer.fromVariable w k k.read? = k.consult w := by
  rw [Layer.fromVariable, consult, fault?, inEnvironment?]
  cases hp : k.provided? w with
  | none => rfl
  | some v => cases hr : k.read? v.2 <;> simp [hr, refusal, h]

lemma formatFromVariable_eq (w : World) : Layer.formatFromVariable w = format.consult w := by
  rw [Layer.formatFromVariable, consult, fault?, inEnvironment?]
  cases hp : format.provided? w with
  | none => rfl
  | some v =>
    cases hn : LogFormat.named? (LogFormat.normalize v.2) <;>
      simp [read?, LogFormat.read, hn, refusal, Except.mapError, Except.map, Except.toOption]

lemma fault?_of_total {k : Setting} {read : String → k.Value}
    (h : ∀ value, k.read? value = some (read value)) (w : World) : k.fault? w = none := by
  rw [fault?]
  cases hp : k.provided? w with
  | none => rfl
  | some v => simp [h v.2]

lemma inEnvironment?_of_total {k : Setting} {read : String → k.Value}
    (h : ∀ value, k.read? value = some (read value)) (w : World) :
    k.inEnvironment? w = (k.provided? w).map fun v => read v.2 := by
  rw [inEnvironment?]
  cases hp : k.provided? w with
  | none => rfl
  | some v => simp [h v.2]

end Setting

namespace Layer

lemma ofVariables_eq (w : World) :
    ofVariables w =
      match Setting.firstFault? w with
      | some e => .error e
      | none => .ok (ofValues fun k => k.inEnvironment? w) := by
  have hi : ∀ value, Setting.ignoreList.read? value = some (readPhrases value) := fun _ => rfl
  have hx : ∀ value, Setting.extraIgnore.read? value = some (readPhrases value) := fun _ => rfl
  have hl : ∀ value, Setting.level.read? value = some value := fun _ => rfl
  have he := Setting.fromVariable_eq (k := .enabled) (by decide) w
  have hc := Setting.fromVariable_eq (k := .caseSensitive) (by decide) w
  have hb := Setting.fromVariable_eq (k := .bufferTime) (by decide) w
  have hm := Setting.fromVariable_eq (k := .emitEvents) (by decide) w
  simp only [Setting.read?] at he hc hb hm
  rw [ofVariables, he, hc, hb, hm, Setting.formatFromVariable_eq, Setting.firstFault?]
  simp only [Setting.all, List.findSome?_cons, List.findSome?_nil,
    Setting.fault?_of_total hi, Setting.fault?_of_total hx, Setting.fault?_of_total hl,
    Setting.consult]
  cases Setting.enabled.fault? w with
  | some e => rfl
  | none =>
    cases Setting.caseSensitive.fault? w with
    | some e => rfl
    | none =>
      cases Setting.bufferTime.fault? w with
      | some e => rfl
      | none =>
        cases Setting.emitEvents.fault? w with
        | some e => rfl
        | none =>
          cases Setting.format.fault? w with
          | some e => rfl
          | none =>
            rw [ofValues, Setting.inEnvironment?_of_total hi, Setting.inEnvironment?_of_total hx,
              Setting.inEnvironment?_of_total hl]
            rfl

end Layer

end TurnTaking
