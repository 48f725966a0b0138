import TurnTaking.Text.Blank
import TurnTaking.World.Basic

namespace TurnTaking

inductive FileContent where
  | text (s : String)
  | bytes
  | directory
  deriving DecidableEq, Repr

structure Directory where
  entries : List (List String × FileContent)

namespace Directory

def parts (path : String) : List String :=
  (Text.pieces (· == '/') path.toList).map String.ofList

def isIdle (part : String) : Bool := part = "" || part = "."

def ofFiles (files : List (String × FileContent)) : Directory :=
  ⟨files.map fun f => ((parts f.1).filter fun p => !isIdle p, f.2)⟩

def content? (d : Directory) (place : List String) : Option FileContent :=
  match d.entries.find? fun e => e.1 == place with
  | some e => some e.2
  | none =>
    if place.isEmpty || d.entries.any (fun e => place.isPrefixOf e.1) then some .directory else none

def mostPartBytes : Nat := 255

def mostPathBytes : Nat := 4095

/-- Where a path has led so far: to a place in the directory, or to one of the directories around
it, of which nothing is known but that they are there. -/
inductive Place where
  | inside (parts : List String)
  | around
  deriving DecidableEq, Repr

namespace Place

def parent : Place → Place
  | inside [] => around
  | inside parts => inside parts.dropLast
  | around => around

def start (path : String) : Place :=
  if path.toList.head? = some '/' then around else inside []

end Place

def contentAt? (d : Directory) : Place → Option FileContent
  | .inside parts => d.content? parts
  | .around => some .directory

def follow (d : Directory) : Place → List String → Except FileFault FileContent
  | here, [] =>
    match d.contentAt? here with
    | some content => .ok content
    | none => .error .missing
  | here, part :: rest =>
    match d.contentAt? here with
    | none => .error .missing
    | some .directory =>
      if mostPartBytes < part.utf8ByteSize then .error .nameTooLong
      else if isIdle part then d.follow here rest
      else if part = ".." then d.follow here.parent rest
      else
        match here with
        | .inside parts => d.follow (.inside (parts ++ [part])) rest
        | .around => .error .missing
    | some _ => .error .notDirectory

def contents (d : Directory) (path : String) : Except FileFault String :=
  if path.toList.contains '\x00' then .error .badName
  else if mostPathBytes < path.utf8ByteSize then .error .nameTooLong
  else if path = "" then .error .missing
  else
    match d.follow (.start path) (parts path) with
    | .ok (.text s) => .ok s
    | .ok .bytes => .error .notText
    | .ok .directory => .error .isDirectory
    | .error fault => .error fault

end Directory

end TurnTaking
