import TurnTaking.Text.Lowercase

namespace TurnTaking

inductive Level where
  | trace
  | debug
  | info
  | warn
  | error
  deriving DecidableEq, Repr

namespace Level

def name : Level → String
  | trace => "trace"
  | debug => "debug"
  | info => "info"
  | warn => "warn"
  | error => "error"

def all : List Level := [trace, debug, info, warn, error]

def verbosity : Level → Nat
  | error => 1
  | warn => 2
  | info => 3
  | debug => 4
  | trace => 5

def read? (s : String) : Option Level :=
  all.find? fun l => Text.lowercaseAscii s == l.name || s == toString l.verbosity

end Level

end TurnTaking
