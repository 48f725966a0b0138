import TurnTaking.Report.Payload
import TurnTaking.Toml.Inspected

/-! The settings in force, each with the layer that it is said to come from. -/

namespace TurnTaking

inductive Source where
  | environment (key : String)
  | file (path : String)
  | builtIn
  deriving DecidableEq, Repr

namespace Source

def describe : Source → String
  | environment key => "env (" ++ key ++ ")"
  | file path => "file (" ++ path ++ ")"
  | builtIn => "default"

def document? (w : World) (path : String) : Option Toml.Entries :=
  (w.contents path).toOption.bind Toml.inspect?

def binds (t : Toml.Entries) (s : Setting) : Bool :=
  match t.inspected.get? s.table with
  | some (.table _ inner) => ((Toml.Entries.inspected inner).get? s.key).isSome
  | _ => false

def of (w : World) (path : Option String) (s : Setting) : Source :=
  match s.provided? w with
  | some (key, _) => environment key
  | none =>
    match path with
    | none => builtIn
    | some path =>
      match document? w path with
      | some t => if binds t s then file path else builtIn
      | none => builtIn

end Source

namespace Settings

def flagText (b : Bool) : String := if b then "true" else "false"

def phrasesText (phrases : List String) : String :=
  if phrases.isEmpty then "<none>" else "[" ++ String.intercalate ", " phrases ++ "]"

def valueText (s : Settings) : Setting → String
  | .enabled => flagText s.filter.enabled
  | .ignoreList => toString s.filter.ignoreList.size ++ " phrases"
  | .extraIgnore => phrasesText s.filter.extraIgnore
  | .caseSensitive => flagText s.filter.caseSensitive
  | .bufferTime => s.filter.bufferTime.toPlain
  | .emitEvents => flagText s.filter.emitEvents
  | .level => s.logging.level
  | .format => s.logging.format.name

end Settings

namespace Report

def sourceLine (w : World) (path : Option String) (s : Settings) (k : Setting) : String :=
  "- " ++ k.name ++ " = " ++ s.valueText k ++ " (source: " ++ (Source.of w path k).describe ++ ")"

def sources (w : World) (o : LoadOptions) : Report :=
  match Settings.load w o with
  | .error e => failure "config" (.ofConfig e) []
  | .ok s =>
    let path := Settings.resolve w o.path
    ⟨0, String.intercalate "\n" ("effective config (source precedence: env > file > default):" ::
      Setting.all.map (sourceLine w path s)), []⟩

end Report

end TurnTaking
