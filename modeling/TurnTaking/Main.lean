import TurnTaking.CommandLine.Run

namespace TurnTaking

def FileFault.ofError (path : String) : IO.Error → FileFault
  | .noFileOrDirectory .. => .missing
  | .permissionDenied .. => .forbidden
  | .inappropriateType file .. => if file.isSome then .notDirectory else .isDirectory
  | .invalidArgument .. => if path.toList.contains '\x00' then .badName else .nameTooLong
  | _ => .missing

def isReachable (path : String) : IO Bool := do
  try
    let _ ← IO.FS.realPath path
    return true
  catch _ => return false

def readText (path : String) : IO (Except FileFault String) := do
  try
    let bytes ← IO.FS.readBinFile path
    match String.fromUTF8? bytes with
    | some s => return .ok s
    | none => return .error .notText
  catch e =>
    let fault := FileFault.ofError path e
    if fault = .forbidden && !(← isReachable path) then return .error .unsearchable
    return .error fault

def namesToRead (files : List (String × Except FileFault String)) : List String :=
  Setting.all.flatMap Setting.variableNames ++
    files.flatMap fun f =>
      match f.2 with
      | .ok s => interpolatedNames s
      | .error _ => []

def readVariables (names : List String) : IO (List (String × String)) := do
  let found ← names.mapM fun name => do
    let value ← IO.getEnv name
    return value.map fun v => (name, v)
  return found.filterMap id

def readWorld (args : List String) : IO World := do
  let paths :=
    match Invocation.parse none args with
    | .ok i => i.paths
    | .error _ => []
  let files ← paths.mapM fun path => do return (path, ← readText path)
  return .ofLists files (← readVariables (namesToRead files))

end TurnTaking

def main (args : List String) : IO UInt32 := do
  let run := TurnTaking.Run.of (← TurnTaking.readWorld args) args
  for line in TurnTaking.Run.diagnosticLines run.diagnostics do
    IO.eprintln line
  IO.print run.output
  return run.exitCode.toUInt32
