/-! Options may stand in any order; after the argument `--` everything is plain. -/

namespace TurnTaking

inductive Refusal where
  | help
  | usage
  deriving DecidableEq, Repr

inductive ValueKind where
  | text
  | path
  deriving DecidableEq, Repr

def ValueKind.accepts : ValueKind → String → Bool
  | text, _ => true
  | path, value => !value.isEmpty

structure Signature where
  flags : List String := []
  options : List (String × ValueKind) := []
  plain : List ValueKind := []

structure Matched where
  flags : List String := []
  options : List (String × String) := []
  plain : List String := []
  deriving DecidableEq, Repr

namespace Matched

def hasFlag (m : Matched) (name : String) : Bool := m.flags.contains name

def option? (m : Matched) (name : String) : Option String :=
  (m.options.find? fun o => o.1 == name).map (·.2)

def addFlag (m : Matched) (name : String) : Except Refusal Matched :=
  if m.hasFlag name then .error .usage else .ok { m with flags := m.flags ++ [name] }

def addOption (m : Matched) (name value : String) : Except Refusal Matched :=
  if (m.option? name).isSome then .error .usage
  else .ok { m with options := m.options ++ [(name, value)] }

end Matched

inductive Argument where
  | separator
  | long (name : String) (value : Option String)
  | short (letters : List Char)
  | plain (value : String)
  deriving DecidableEq, Repr

namespace Argument

def ofLong (cs : List Char) : Argument :=
  let name := String.ofList (cs.takeWhile (· ≠ '='))
  match cs.dropWhile (· ≠ '=') with
  | [] => long name none
  | _ :: value => long name (some (String.ofList value))

def of (s : String) : Argument :=
  match s.toList with
  | ['-', '-'] => separator
  | '-' :: '-' :: cs => ofLong cs
  | ['-'] => plain s
  | '-' :: cs => short cs
  | _ => plain s

def isPlain : Argument → Bool
  | plain _ => true
  | _ => false

end Argument

namespace Signature

def refuseShort : List Char → Refusal
  | 'h' :: _ => .help
  | _ => .usage

def kind? (s : Signature) (name : String) : Option ValueKind :=
  (s.options.find? fun o => o.1 == name).map (·.2)

def matchPlain (s : Signature) (m : Matched) (value : String) : Except Refusal Matched :=
  match s.plain[m.plain.length]? with
  | some kind =>
    if kind.accepts value then .ok { m with plain := m.plain ++ [value] } else .error .usage
  | none => .error .usage

def matchOption (m : Matched) (name value : String) (kind : ValueKind) : Except Refusal Matched :=
  if kind.accepts value then m.addOption name value else .error .usage

def matchFlag (s : Signature) (m : Matched) (name : String) : Except Refusal Matched :=
  if name = "help" then .error .help
  else if s.flags.contains name then m.addFlag name
  else .error .usage

def scan (s : Signature) (m : Matched) : List String → Except Refusal Matched
  | [] => .ok m
  | arg :: args =>
    match Argument.of arg with
    | .separator => args.foldlM s.matchPlain m
    | .short letters => .error (refuseShort letters)
    | .plain value => do s.scan (← s.matchPlain m value) args
    | .long name value =>
      match s.kind? name, value with
      | some kind, some value => do s.scan (← matchOption m name value kind) args
      | none, some _ => .error .usage
      | none, none => do s.scan (← s.matchFlag m name) args
      | some kind, none =>
        match args with
        | [] => .error .usage
        | next :: args =>
          if (Argument.of next).isPlain then do s.scan (← matchOption m name next kind) args
          else .error .usage

def parse (s : Signature) (args : List String) : Except Refusal Matched := do
  let m ← s.scan {} args
  if m.plain.length = s.plain.length then return m else throw .usage

end Signature

end TurnTaking
