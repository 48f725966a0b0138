import TurnTaking.Json.Value
import TurnTaking.Number.Written
import TurnTaking.Text.Hex

namespace TurnTaking.Json

def escapedChar (c : Char) : List Char :=
  if c = '"' then ['\\', '"']
  else if c = '\\' then ['\\', '\\']
  else if c = '\x08' then ['\\', 'b']
  else if c = '\x0c' then ['\\', 'f']
  else if c = '\n' then ['\\', 'n']
  else if c = '\r' then ['\\', 'r']
  else if c = '\t' then ['\\', 't']
  else if c.toNat < 32 then '\\' :: 'u' :: Text.paddedHex 4 c.toNat
  else [c]

def writeText (s : String) : List Char :=
  '"' :: (s.toList.flatMap escapedChar ++ ['"'])

def writeInteger (i : Int) : List Char :=
  let ds := Nat.toDigits 10 i.natAbs
  if i < 0 then '-' :: ds else ds

def writeFloat (f : Format) : Binary → List Char
  | .finite negative m e =>
    let layout := if f = .single then Layout.jsonSingle else Layout.jsonDouble
    ((Binary.finite negative m e).write f layout).toList
  | _ => "null".toList

mutual

def write : Json → List Char
  | null => "null".toList
  | boolean b => (if b then "true" else "false").toList
  | integer i => writeInteger i
  | float f x => writeFloat f x
  | text s => writeText s
  | list items => '[' :: (writeItems items ++ [']'])
  | object members => '\x7b' :: (writeMembers members ++ ['\x7d'])

def writeItems : List Json → List Char
  | [] => []
  | [x] => write x
  | x :: y :: xs => write x ++ ',' :: writeItems (y :: xs)

def writeMembers : List (String × Json) → List Char
  | [] => []
  | [(k, x)] => writeText k ++ ':' :: write x
  | (k, x) :: m :: ms => writeText k ++ ':' :: (write x ++ ',' :: writeMembers (m :: ms))

end

def newLine (level : Nat) : List Char :=
  '\n' :: List.replicate (2 * level) ' '

mutual

def prettyAt (level : Nat) : Json → List Char
  | list [] => ['[', ']']
  | list (x :: xs) => '[' :: (prettyItems (level + 1) (x :: xs) ++ newLine level ++ [']'])
  | object [] => ['\x7b', '\x7d']
  | object (m :: ms) => '\x7b' :: (prettyMembers (level + 1) (m :: ms) ++ newLine level ++ ['\x7d'])
  | null => write null
  | boolean b => write (boolean b)
  | integer i => write (integer i)
  | float f x => write (float f x)
  | text s => write (text s)

def prettyItems (level : Nat) : List Json → List Char
  | [] => []
  | [x] => newLine level ++ prettyAt level x
  | x :: y :: xs => newLine level ++ prettyAt level x ++ ',' :: prettyItems level (y :: xs)

def prettyMembers (level : Nat) : List (String × Json) → List Char
  | [] => []
  | [(k, x)] => newLine level ++ writeText k ++ ':' :: ' ' :: prettyAt level x
  | (k, x) :: m :: ms =>
    newLine level ++ writeText k ++ ':' :: ' ' ::
      (prettyAt level x ++ ',' :: prettyMembers level (m :: ms))

end

def toLine (j : Json) : String :=
  String.ofList j.write

def toPretty (j : Json) : String :=
  String.ofList (prettyAt 0 j)

end TurnTaking.Json
