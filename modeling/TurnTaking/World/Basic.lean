/-! Everything that is read from outside comes from here. -/

namespace TurnTaking

inductive FileFault where
  | missing
  | notDirectory
  | isDirectory
  | nameTooLong
  | forbidden
  /-- A directory on the way that may not be searched. -/
  | unsearchable
  | notText
  | badName
  deriving DecidableEq, Repr

namespace FileFault

def message : FileFault → String
  | missing => "No such file or directory (os error 2)"
  | notDirectory => "Not a directory (os error 20)"
  | isDirectory => "Is a directory (os error 21)"
  | nameTooLong => "File name too long (os error 36)"
  | forbidden | unsearchable => "Permission denied (os error 13)"
  | notText => "stream did not contain valid UTF-8"
  | badName => "file name contained an unexpected NUL byte"

def isPresent : FileFault → Bool
  | isDirectory | forbidden | notText => true
  | missing | notDirectory | nameTooLong | unsearchable | badName => false

end FileFault

structure World where
  contents : String → Except FileFault String
  lookup : String → Option String
  /-- What the reader of settings files says of a text that it cannot read. -/
  refusal : String → String := fun _ => "<toml error>"
  /-- How the reader of records names the place in a line where it gave up. -/
  place : String → String := fun _ => ""

namespace World

def empty : World where
  contents _ := .error .missing
  lookup _ := none

def ofLists (files : List (String × Except FileFault String)) (settings : List (String × String)) :
    World where
  contents path :=
    match files.find? fun f => f.1 == path with
    | some f => f.2
    | none => .error .missing
  lookup name := (settings.find? fun v => v.1 == name).map (·.2)

def isPresent (w : World) (path : String) : Bool :=
  match w.contents path with
  | .ok _ => true
  | .error fault => fault.isPresent

end World

end TurnTaking
