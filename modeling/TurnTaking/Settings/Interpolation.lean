/-! An expression `$\x7bNAME\x7d` in a text stands for the value of a variable. -/

namespace TurnTaking

inductive InterpolationFault where
  | missing (name : String)
  | unterminated
  deriving DecidableEq, Repr

def interpolateFrom (lookup : String → Option String) :
    Option (List Char) → List Char → Except InterpolationFault (List Char)
  | none, [] => .ok []
  | none, '$' :: '\x7b' :: cs => interpolateFrom lookup (some []) cs
  | none, c :: cs => (interpolateFrom lookup none cs).map (c :: ·)
  | some _, [] => .error .unterminated
  | some name, c :: cs =>
    if c = '\x7d' then
      match lookup (String.ofList name.reverse) with
      | some value => (interpolateFrom lookup none cs).map (value.toList ++ ·)
      | none => .error (.missing (String.ofList name.reverse))
    else interpolateFrom lookup (some (c :: name)) cs

def interpolate (lookup : String → Option String) (s : String) :
    Except InterpolationFault String :=
  (interpolateFrom lookup none s.toList).map String.ofList

def interpolatedNames (s : String) : List String :=
  go none s.toList
where
  go : Option (List Char) → List Char → List String
    | none, '$' :: '\x7b' :: cs => go (some []) cs
    | none, _ :: cs => go none cs
    | some name, c :: cs =>
      if c = '\x7d' then String.ofList name.reverse :: go none cs else go (some (c :: name)) cs
    | _, [] => []

end TurnTaking
