import TurnTaking.Filter.Config
import TurnTaking.Log.Entry
import TurnTaking.Settings.LogFormat
import TurnTaking.Settings.Interpolation
import TurnTaking.Toml.Document
import TurnTaking.World.Basic

namespace TurnTaking

structure FilterSettings where
  enabled : Bool := true
  ignoreList : IgnoreList := .builtIn
  extraIgnore : List String := []
  caseSensitive : Bool := false
  bufferTime : Binary := .half
  emitEvents : Bool := true
  deriving DecidableEq, Repr

structure LoggingSettings where
  level : String := "info"
  format : LogFormat := .compact
  deriving DecidableEq, Repr

structure Settings where
  filter : FilterSettings := {}
  logging : LoggingSettings := {}
  deriving DecidableEq, Repr

inductive ConfigError where
  | unreadable (path : String) (fault : FileFault)
  | unparsable (path reason : String)
  | missingFile (path : String)
  | missingVariable (name : String)
  | unterminatedInterpolation
  | invalidVariable (key value : String)
  | filter (e : FilterError)
  | invalid (reason : String)
  deriving DecidableEq, Repr

namespace ConfigError

def message : ConfigError → String
  | unreadable path fault => "could not read config file \x60" ++ path ++ "\x60: " ++ fault.message
  | unparsable path reason => "could not parse config file \x60" ++ path ++ "\x60: " ++ reason
  | missingFile path => "required config file was not found: \x60" ++ path ++ "\x60"
  | missingVariable name => "environment variable interpolation failed for \x60" ++ name ++ "\x60"
  | unterminatedInterpolation => "unterminated environment interpolation expression"
  | invalidVariable key value =>
    "invalid environment override for \x60" ++ key ++ "\x60: \x60" ++ value ++ "\x60"
  | filter e => e.message
  | invalid reason => "configuration validation failed: " ++ reason

def ofInterpolation : InterpolationFault → ConfigError
  | .missing name => missingVariable name
  | .unterminated => unterminatedInterpolation

end ConfigError

inductive Setting where
  | enabled
  | ignoreList
  | extraIgnore
  | caseSensitive
  | bufferTime
  | emitEvents
  | level
  | format
  deriving DecidableEq, Repr

namespace Setting

def all : List Setting :=
  [enabled, ignoreList, extraIgnore, caseSensitive, bufferTime, emitEvents, level, format]

def table : Setting → String
  | enabled | ignoreList | extraIgnore | caseSensitive | bufferTime | emitEvents => "filter"
  | level | format => "logging"

def key : Setting → String
  | enabled => "enabled"
  | ignoreList => "ignore_list"
  | extraIgnore => "extra_ignore"
  | caseSensitive => "case_sensitive"
  | bufferTime => "buffer_time_secs"
  | emitEvents => "emit_events"
  | level => "level"
  | format => "format"

def name (s : Setting) : String := s.table ++ "." ++ s.key

def variableNames : Setting → List String
  | enabled => ["BACKCHANNEL_FILTER_ENABLED"]
  | ignoreList => ["BACKCHANNEL_FILTER_IGNORE_LIST"]
  | extraIgnore => ["BACKCHANNEL_FILTER_EXTRA_IGNORE"]
  | caseSensitive => ["BACKCHANNEL_FILTER_CASE_SENSITIVE"]
  | bufferTime => ["BACKCHANNEL_FILTER_BUFFER_TIME_SECS"]
  | emitEvents => ["BACKCHANNEL_FILTER_EMIT_EVENTS"]
  | level => ["BACKCHANNEL_LOGGING_LEVEL", "BACKCHANNEL_LOG_LEVEL"]
  | format => ["BACKCHANNEL_LOGGING_FORMAT", "BACKCHANNEL_LOG_FORMAT"]

def provided? (s : Setting) (w : World) : Option (String × String) :=
  s.variableNames.findSome? fun key =>
    ((w.lookup key).filter fun value => !Text.isBlankText value).map fun value => (key, value)

end Setting

namespace FilterSettings

def toConfig (s : FilterSettings) : FilterConfig :=
  { enabled := s.enabled
    ignoreList := s.ignoreList.extend s.extraIgnore
    caseSensitive := s.caseSensitive
    bufferTime := s.bufferTime
    emitEvents := s.emitEvents }

def filterConfig (s : FilterSettings) : Except FilterError FilterConfig :=
  s.toConfig.validated

end FilterSettings

namespace LoggingSettings

def levelNames : List String := Level.all.map Level.name

def isLevel (s : LoggingSettings) : Bool :=
  levelNames.contains (Text.lowercaseAscii (Text.trim s.level))

def limit (s : LoggingSettings) : Level :=
  (Level.read? s.level).getD .info

end LoggingSettings

namespace Settings

def filterConfig (s : Settings) : Except ConfigError FilterConfig :=
  s.filter.filterConfig.mapError .filter

def validate (s : Settings) : Except ConfigError Unit := do
  let _ ← s.filterConfig
  if s.logging.isLevel then return ()
  else throw (.invalid "logging.level must be one of trace|debug|info|warn|error")

end Settings

end TurnTaking
