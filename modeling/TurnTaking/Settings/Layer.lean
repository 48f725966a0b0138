import TurnTaking.Settings.Basic

/-!
The settings file, the environment and the caller give a layer each, and the later of these
overrides the earlier, save that the caller's additional phrases are added to those that are there.
-/

namespace TurnTaking

structure Layer where
  enabled : Option Bool := none
  ignoreList : Option (List String) := none
  extraIgnore : Option (List String) := none
  caseSensitive : Option Bool := none
  bufferTime : Option Binary := none
  emitEvents : Option Bool := none
  level : Option String := none
  format : Option LogFormat := none
  deriving DecidableEq, Repr

namespace Settings

def apply (s : Settings) (l : Layer) : Settings where
  filter :=
    { enabled := l.enabled.getD s.filter.enabled
      ignoreList := (l.ignoreList.map IgnoreList.mk).getD s.filter.ignoreList
      extraIgnore := l.extraIgnore.getD s.filter.extraIgnore
      caseSensitive := l.caseSensitive.getD s.filter.caseSensitive
      bufferTime := l.bufferTime.getD s.filter.bufferTime
      emitEvents := l.emitEvents.getD s.filter.emitEvents }
  logging :=
    { level := l.level.getD s.logging.level
      format := l.format.getD s.logging.format }

end Settings

namespace Toml.Value

def asText? : Value → Option String
  | text s => some s
  | _ => none

def asBoolean? : Value → Option Bool
  | boolean b => some b
  | _ => none

def asTexts? : Value → Option (List String)
  | array items => items.mapM asText?
  | _ => none

def asNumber? : Value → Option Binary
  | float x => some x
  | integer i => some (Format.double.ofInt i)
  | _ => none

def isEmpty : Value → Bool
  | array items => items.isEmpty
  | table _ entries => entries.isEmpty
  | tables opened => opened.isEmpty
  | _ => false

def asFormat? : Value → Option LogFormat
  | text s => LogFormat.named? s
  | table _ [(key, value)] => if value.isEmpty then LogFormat.named? key else none
  | _ => none

/-- The values of some keys, each of which may be missing. An array gives them by position, and a
date stands for a table without any of the keys. -/
def fields? (keys : List String) : Value → Option (List (Option Value))
  | table _ entries => some (keys.map fun key => Entries.get? key entries)
  | array items =>
    if keys.length ≤ items.length then some ((items.take keys.length).map some) else none
  | moment => some (keys.map fun _ => none)
  | _ => none

end Toml.Value

namespace Layer

def optional {α : Type} (read : Toml.Value → Option α) : Option Toml.Value → Option (Option α)
  | none => some none
  | some v => (read v).map some

def ofFilter (l : Layer) (v : Toml.Value) : Option Layer := do
  let settings : List Setting :=
    [.enabled, .ignoreList, .extraIgnore, .caseSensitive, .bufferTime, .emitEvents]
  match ← v.fields? (settings.map Setting.key) with
  | [enabled, ignoreList, extraIgnore, caseSensitive, bufferTime, emitEvents] =>
    return { l with
      enabled := ← optional Toml.Value.asBoolean? enabled
      ignoreList := ← optional Toml.Value.asTexts? ignoreList
      extraIgnore := ← optional Toml.Value.asTexts? extraIgnore
      caseSensitive := ← optional Toml.Value.asBoolean? caseSensitive
      bufferTime := ← optional Toml.Value.asNumber? bufferTime
      emitEvents := ← optional Toml.Value.asBoolean? emitEvents }
  | _ => none

def ofLogging (l : Layer) (v : Toml.Value) : Option Layer := do
  match ← v.fields? ([Setting.level, Setting.format].map Setting.key) with
  | [level, format] =>
    return { l with
      level := ← optional Toml.Value.asText? level
      format := ← optional Toml.Value.asFormat? format }
  | _ => none

def ofDocument (t : Toml.Entries) : Option Layer := do
  let l ←
    match t.get? "filter" with
    | none => some {}
    | some v => ofFilter {} v
  match t.get? "logging" with
  | none => some l
  | some v => l.ofLogging v

def ofFile (w : World) (path : String) : Except ConfigError Layer := do
  let raw ← (w.contents path).mapError (.unreadable path)
  let s ← (interpolate w.lookup raw).mapError .ofInterpolation
  match (Toml.read? s).bind ofDocument with
  | some l => return l
  | none => throw (.unparsable path (w.refusal s))

def readFlag? (s : String) : Option Bool :=
  let word := LogFormat.normalize s
  if ["true", "1", "yes", "on"].contains word then some true
  else if ["false", "0", "no", "off"].contains word then some false
  else none

def readPhrases (s : String) : List String :=
  ((Text.pieces (· == ',') s.toList).map fun p => Text.trim (String.ofList p)).filter fun p => p ≠ ""

def readNumber? (s : String) : Option Binary :=
  Format.double.read? (Text.trim s)

def fromVariable {α : Type} (w : World) (s : Setting) (read : String → Option α) :
    Except ConfigError (Option α) :=
  match s.provided? w with
  | none => .ok none
  | some (key, value) =>
    match read value with
    | some x => .ok (some x)
    | none => .error (.invalidVariable key value)

def formatFromVariable (w : World) : Except ConfigError (Option LogFormat) :=
  match Setting.format.provided? w with
  | none => .ok none
  | some (_, value) => ((LogFormat.read value).mapError .invalid).map some

def ofVariables (w : World) : Except ConfigError Layer := do
  let enabled ← fromVariable w .enabled readFlag?
  let caseSensitive ← fromVariable w .caseSensitive readFlag?
  let bufferTime ← fromVariable w .bufferTime readNumber?
  let emitEvents ← fromVariable w .emitEvents readFlag?
  let format ← formatFromVariable w
  return {
    enabled
    ignoreList := (Setting.ignoreList.provided? w).map fun v => readPhrases v.2
    extraIgnore := (Setting.extraIgnore.provided? w).map fun v => readPhrases v.2
    caseSensitive
    bufferTime
    emitEvents
    level := (Setting.level.provided? w).map (·.2)
    format }

end Layer

end TurnTaking
