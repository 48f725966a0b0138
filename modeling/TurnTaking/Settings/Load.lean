import TurnTaking.Filter.Engine
import TurnTaking.Settings.Layer

namespace TurnTaking

structure Overrides where
  enabled : Option Bool := none
  caseSensitive : Option Bool := none
  bufferTime : Option Binary := none
  ignoreList : Option (List String) := none
  extraIgnore : List String := []
  emitEvents : Option Bool := none
  level : Option String := none
  format : Option LogFormat := none
  deriving DecidableEq, Repr

structure LoadOptions where
  path : Option String := none
  requireFile : Bool := false
  overrides : Overrides := {}
  deriving DecidableEq, Repr

namespace LoadOptions

def ofPath (path : Option String) : LoadOptions :=
  { path, requireFile := path.isSome }

end LoadOptions

namespace Settings

def usualPlace : String := "backchannel.toml"

def places : List String := [usualPlace, "config/backchannel.toml"]

def resolve (w : World) : Option String → Option String
  | some path => if w.isPresent path then some path else none
  | none => places.find? w.isPresent

def fileLayer (w : World) (o : LoadOptions) : Except ConfigError Layer :=
  match resolve w o.path with
  | some path => Layer.ofFile w path
  | none =>
    if o.requireFile then .error (.missingFile (o.path.getD usualPlace)) else .ok {}

def override (s : Settings) (o : Overrides) : Settings :=
  s.apply {
    enabled := o.enabled
    ignoreList := o.ignoreList
    extraIgnore := some (s.filter.extraIgnore ++ o.extraIgnore)
    caseSensitive := o.caseSensitive
    bufferTime := o.bufferTime
    emitEvents := o.emitEvents
    level := o.level
    format := o.format }

def load (w : World) (o : LoadOptions) : Except ConfigError Settings := do
  let file ← fileLayer w o
  let environment ← Layer.ofVariables w
  let s := ((({} : Settings).apply file).apply environment).override o.overrides
  s.validate
  return s

end Settings

namespace Filter

def load (w : World) (o : LoadOptions) : Except ConfigError Filter := do
  let s ← Settings.load w o
  let c ← s.filterConfig
  (build c).mapError .filter

end Filter

end TurnTaking
