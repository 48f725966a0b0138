import TurnTaking.Filter.Engine
import TurnTaking.Json.Write
import TurnTaking.Settings.Load

namespace TurnTaking

structure Report where
  exitCode : Nat
  output : String
  log : Log := []
  deriving DecidableEq, Repr

inductive RunError where
  | filter (e : FilterError)
  | configuration (reason : String)
  | input (reason : String)
  deriving DecidableEq, Repr

namespace RunError

def ofConfig : ConfigError → RunError
  | .filter e => filter e
  | e => configuration e.message

def message : RunError → String
  | filter e => e.message
  | configuration reason => "configuration failure: " ++ reason
  | input reason => "invalid input: " ++ reason

def className : RunError → String
  | filter _ | configuration _ => "config_validation"
  | input _ => "input"

def exitCode : RunError → Nat
  | filter _ | configuration _ => 2
  | input _ => 3

def hint : RunError → String
  | filter _ | configuration _ =>
    "The filter configuration is invalid. Fix the config file or environment and retry."
  | input _ => "The input could not be read. Check the file and try again."

end RunError

namespace Report

def successPayload (command message : String) (data : Json) : Json :=
  .object [("command", .text command), ("status", .text "ok"), ("error_class", .null),
    ("message", .text message), ("data", data)]

def failurePayload (command className message : String) (hint : Option String) : Json :=
  .object ([("command", .text command), ("status", .text "error"),
    ("error_class", .text className), ("message", .text message)] ++
    (hint.map fun h => ("hint", .text h)).toList)

def errorPayload (command : String) (e : RunError) : Json :=
  failurePayload command e.className e.message (some e.hint)

def success (command message : String) (data : Json) (log : Log) : Report :=
  ⟨0, (successPayload command message data).toLine, log⟩

def failure (command : String) (e : RunError) (log : Log) : Report :=
  ⟨e.exitCode, (errorPayload command e).toLine, log⟩

end Report

end TurnTaking
