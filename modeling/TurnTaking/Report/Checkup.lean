import TurnTaking.Report.Payload

/-! The transcripts that a checkup tries are chosen from the ignore list itself. -/

namespace TurnTaking

inductive CheckStatus where
  | pass
  | fail
  | skipped
  deriving DecidableEq, Repr

namespace CheckStatus

def name : CheckStatus → String
  | pass => "pass"
  | fail => "fail"
  | skipped => "skipped"

def marker : CheckStatus → String
  | pass => "ok"
  | fail => "fail"
  | skipped => "skip"

end CheckStatus

structure Check where
  name : String
  status : CheckStatus
  details : String
  deriving DecidableEq, Repr

namespace Check

def toJson (c : Check) : Json :=
  .object [("name", .text c.name), ("status", .text c.status.name), ("details", .text c.details)]

def toText (c : Check) : String :=
  "- [" ++ c.status.marker ++ "] " ++ c.name ++ ": " ++ c.details

end Check

structure Scenario where
  label : String
  transcript : Transcript
  expected : Action
  deriving DecidableEq, Repr

namespace Filter

def commandProbe : String := "wait, please stop there"

def probePhrase? (f : Filter) : Option String :=
  f.config.ignoreList.phrases.find? f.isIgnoreOnly

def scenarios (f : Filter) : List Scenario :=
  let backchannel :=
    match f.probePhrase? with
    | some phrase =>
      [⟨"backchannel_while_speaking", ⟨phrase, true, none⟩, .filter⟩,
        ⟨"backchannel_while_listening", ⟨phrase, false, none⟩, .allow⟩]
    | none => []
  let command :=
    if f.isIgnoreOnly commandProbe then []
    else [⟨"command_while_speaking", ⟨commandProbe, true, none⟩, .allow⟩]
  ⟨"silence_while_speaking", ⟨"", true, none⟩, .allow⟩ :: (backchannel ++ command)

def scenarioFailure (f : Filter) (s : Scenario) : Option String :=
  let d := (f.evaluate 0 s.transcript).decision
  if d.action = s.expected then none
  else some (s.label ++ " expected " ++ s.expected.name ++ " got " ++ d.action.name ++ " (" ++
    d.reason ++ ")")

def disabledCheck (name : String) : Check := ⟨name, .skipped, "filtering is disabled"⟩

def vocabularyCheck (f : Filter) : Check :=
  let name := "ignore_vocabulary"
  let configured := toString f.config.ignoreList.size
  if !f.isEnabled then disabledCheck name
  else if f.vocabulary.size = 0 then
    ⟨name, .fail, "none of the " ++ configured ++ " configured phrases has any words"⟩
  else
    ⟨name, .pass, toString f.vocabulary.size ++ " distinct phrases compiled from " ++ configured ++
      " entries"⟩

def decisionCheck (f : Filter) : Check :=
  let name := "decision_smoke"
  if !f.isEnabled then disabledCheck name
  else
    let failures := f.scenarios.filterMap f.scenarioFailure
    if failures.isEmpty then
      ⟨name, .pass, toString f.scenarios.length ++ " scenarios matched"⟩
    else ⟨name, .fail, String.intercalate "; " failures⟩

def scenarioLog (f : Filter) : Log :=
  if f.isEnabled then f.scenarios.flatMap fun s => (f.evaluate 0 s.transcript).log else []

end Filter

structure Checkup where
  checks : List Check
  deriving DecidableEq, Repr

namespace Checkup

def ofError (e : ConfigError) : Checkup :=
  let skipped (name : String) : Check :=
    ⟨name, .skipped, "skipped because configuration did not load"⟩
  ⟨[⟨"config_validation", .fail, e.message⟩, skipped "ignore_vocabulary", skipped "decision_smoke"]⟩

def ofFilter (f : Filter) : Checkup :=
  ⟨[⟨"config_validation", .pass, "configuration loaded and validated"⟩, f.vocabularyCheck,
    f.decisionCheck]⟩

def hasFailure (c : Checkup) : Bool :=
  c.checks.any fun k => k.status = .fail

def status (c : Checkup) : CheckStatus :=
  if c.hasFailure then .fail else .pass

def summary (c : Checkup) : String :=
  if c.hasFailure then "doctor: one or more readiness checks failed"
  else "doctor: all readiness checks passed"

def exitCode (c : Checkup) : Nat :=
  if c.hasFailure then 2 else 0

def toJson (c : Checkup) : Json :=
  .object [("overall_status", .text c.status.name), ("summary", .text c.summary),
    ("checks", .list (c.checks.map Check.toJson))]

def toText (c : Checkup) : String :=
  String.intercalate "\n" (c.summary :: c.checks.map Check.toText)

end Checkup

namespace Report

def checkup (w : World) (o : LoadOptions) (json : Bool) : Report :=
  let made (c : Checkup) (log : Log) : Report :=
    ⟨c.exitCode, if json then c.toJson.toPretty else c.toText, log⟩
  match Filter.load w o with
  | .error e => made (.ofError e) []
  | .ok f => made (.ofFilter f) (f.readyLog ++ f.scenarioLog)

end Report

end TurnTaking
