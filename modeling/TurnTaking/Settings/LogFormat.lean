import TurnTaking.Json.Decode
import TurnTaking.Text.Blank
import TurnTaking.Text.Lowercase

namespace TurnTaking

inductive LogFormat where
  | compact
  | pretty
  | json
  deriving DecidableEq, Repr

namespace LogFormat

def name : LogFormat → String
  | compact => "compact"
  | pretty => "pretty"
  | json => "json"

def all : List LogFormat := [compact, pretty, json]

def named? (s : String) : Option LogFormat :=
  all.find? fun f => f.name == s

def normalize (s : String) : String :=
  Text.lowercaseAscii (Text.trim s)

def unsupported (s : String) : String :=
  "unsupported log format \x60" ++ s ++ "\x60 (expected compact|pretty|json)"

def read (s : String) : Except String LogFormat :=
  match named? (normalize s) with
  | some f => .ok f
  | none => .error (unsupported (normalize s))

def decode : Json.Decoder LogFormat := Json.decodeVariant (all.map fun f => (f.name, f))

end LogFormat

end TurnTaking
