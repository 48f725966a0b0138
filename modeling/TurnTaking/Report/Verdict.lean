import TurnTaking.Report.Payload

namespace TurnTaking.Report

def encodingFailure (fault : Json.Fault) (log : Log) : Report :=
  let message := "failed to encode decision: " ++ fault.message
  ⟨1, (failurePayload "classify" "serialization" message none).toLine, log⟩

def verdict (w : World) (o : LoadOptions) (text : String) (speaking : Bool)
    (state : Option String) : Report :=
  match Filter.load w o with
  | .error e => failure "classify" (.ofConfig e) []
  | .ok f =>
    let j := f.decide 0 text speaking state
    let log := f.readyLog ++ j.log
    match j.decision.toJson.encode with
    | .ok data =>
      success "classify" (j.decision.action.name ++ ": " ++ j.decision.reason) data log
    | .error fault => encodingFailure fault log

end TurnTaking.Report
