import TurnTaking.World.Basic

/-!
A name is found by the text before its value, so the first part of a value may count as the end of
a name that holds an equals sign.
-/

namespace TurnTaking

structure Variables where
  entries : List (String × String)

namespace Variables

def after? : List Char → List Char → Option (List Char)
  | [], cs => some cs
  | f :: front, c :: cs => if f = c then after? front cs else none
  | _ :: _, [] => none

def get? (vs : Variables) (name : String) : Option String :=
  if name = "" || name.toList.contains '\x00' then none
  else
    (vs.entries.findSome? fun v => after? (name ++ "=").toList (v.1 ++ "=" ++ v.2).toList).map
      String.ofList

end Variables

end TurnTaking
