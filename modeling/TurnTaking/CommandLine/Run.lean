import TurnTaking.CommandLine.Arguments
import TurnTaking.Report.Checkup
import TurnTaking.Report.Replay
import TurnTaking.Report.Sources
import TurnTaking.Report.Verdict

/-! The program as a function of its arguments and its world. -/

namespace TurnTaking

inductive Command where
  | classify (text : String) (speaking : Bool) (state : Option String)
  | replay (path : String)
  | config
  | doctor (json : Bool)
  deriving DecidableEq, Repr

namespace Command

def signatures : List (String × Signature) :=
  [("classify",
      { flags := ["speaking"], options := [("state", .text), ("config", .path)], plain := [.text] }),
    ("replay", { options := [("config", .path)], plain := [.path] }),
    ("config", { options := [("config", .path)] }),
    ("doctor", { flags := ["json"], options := [("config", .path)] })]

def signature? (name : String) : Option Signature :=
  (signatures.find? fun s => s.1 == name).map (·.2)

def ofMatched (name : String) (m : Matched) : Except Refusal Command :=
  match name, m.plain with
  | "classify", [text] => .ok (classify text (m.hasFlag "speaking") (m.option? "state"))
  | "replay", [path] => .ok (replay path)
  | "config", _ => .ok config
  | "doctor", _ => .ok (doctor (m.hasFlag "json"))
  | _, _ => .error .usage

def run (w : World) (o : LoadOptions) : Command → Report
  | classify text speaking state => .verdict w o text speaking state
  | replay path => .replay w o path
  | config => .sources w o
  | doctor json => .checkup w o json

end Command

structure Invocation where
  configPath : Option String
  command : Command
  deriving DecidableEq, Repr

namespace Invocation

def parseHelp : List String → Refusal
  | [] => .help
  | [name] => if name = "help" || (Command.signature? name).isSome then .help else .usage
  | _ => .usage

def parseCommand (configPath : Option String) (name : String) (args : List String) :
    Except Refusal Invocation :=
  if name = "help" then .error (parseHelp args)
  else
    match Command.signature? name with
    | none => .error .usage
    | some s => do
      let m ← s.parse args
      let command ← Command.ofMatched name m
      return ⟨(m.option? "config").orElse fun _ => configPath, command⟩

def parse (configPath : Option String) : List String → Except Refusal Invocation
  | [] => .error .usage
  | arg :: args =>
    match Argument.of arg with
    | .separator => .error .usage
    | .short letters => .error (Signature.refuseShort letters)
    | .plain name => parseCommand configPath name args
    | .long "config" (some value) =>
      if configPath.isSome || value.isEmpty then .error .usage else parse (some value) args
    | .long "config" none =>
      match args with
      | [] => .error .usage
      | value :: args =>
        if configPath.isSome || value.isEmpty || !(Argument.of value).isPlain then .error .usage
        else parse (some value) args
    | .long "help" none => .error .help
    | .long _ _ => .error .usage

def options (i : Invocation) : LoadOptions := .ofPath i.configPath

def paths (i : Invocation) : List String :=
  let settings :=
    match i.configPath with
    | some path => [path]
    | none => Settings.places
  match i.command with
  | .replay path => settings ++ [path]
  | _ => settings

end Invocation

inductive Diagnostics where
  | usage
  | log (format : LogFormat) (entries : Log)
  deriving DecidableEq, Repr

structure Run where
  exitCode : Nat
  output : String
  diagnostics : Diagnostics
  deriving DecidableEq, Repr

namespace Run

def helpText : String :=
  "Usage: backchannel [--config PATH] COMMAND\n\nCommands:\n" ++
    "  classify TEXT [--speaking] [--state LABEL]\n  replay FILE\n  config\n  doctor [--json]\n"

def entryLine (format : LogFormat) (e : LogEntry) : String :=
  match format with
  | .json => e.toJson.toLine
  | .compact | .pretty =>
    String.intercalate " " (e.level.name :: e.fields.map fun f => f.1 ++ "=" ++ f.2.toLine)

def diagnosticLines : Diagnostics → List String
  | .usage => [helpText]
  | .log format entries => entries.map (entryLine format)

def ofRefusal : Refusal → Run
  | .help => ⟨0, helpText, .log .compact []⟩
  | .usage => ⟨2, "", .usage⟩

def shownLog (w : World) (o : LoadOptions) (log : Log) : Diagnostics :=
  match Settings.load w o with
  | .error _ => .log .compact []
  | .ok s => .log s.logging.format (log.upTo s.logging.limit)

def ofInvocation (w : World) (i : Invocation) : Run :=
  let report := i.command.run w i.options
  ⟨report.exitCode, report.output ++ "\n", shownLog w i.options report.log⟩

def of (w : World) (args : List String) : Run :=
  match Invocation.parse none args with
  | .error r => ofRefusal r
  | .ok i => ofInvocation w i

end Run

end TurnTaking
