import TurnTaking.Json.Value
import TurnTaking.Number.Written
import TurnTaking.Text.Quoted

namespace TurnTaking.Json

inductive Found where
  | null
  | boolean (b : Bool)
  | integer (i : Int)
  | float (x : Binary)
  | text (s : String)
  | list
  | object
  deriving Repr

def Found.describe : Found → String
  | null => "null"
  | boolean b => "boolean \x60" ++ (if b then "true" else "false") ++ "\x60"
  | integer i => "integer \x60" ++ toString i ++ "\x60"
  | float x => "floating point \x60" ++ x.write .double .jsonDouble ++ "\x60"
  | text s => "string " ++ Text.quoted s
  | list => "sequence"
  | object => "map"

inductive Fault where
  | endOfValue
  | endOfText
  | endOfList
  | endOfObject
  | expectedValue
  | expectedWord
  | expectedColon
  | expectedListComma
  | expectedObjectComma
  | keyNotText
  | trailingComma
  | trailingText
  | invalidEscape
  | loneSurrogate
  | unfinishedSurrogate
  | controlCharacter
  | invalidNumber
  | numberOutOfRange
  | tooDeep
  | wrongType (found : Found) (expected : String)
  | wrongLength (length : Nat) (expected : String)
  | missingField (name : String)
  | duplicateField (name : String)
  | unknownVariant (name : String) (known : List String)
  | refused (reason : String)
  deriving Repr

def oneOf : List String → String
  | [] => "there are no variants"
  | [a] => "\x60" ++ a ++ "\x60"
  | [a, b] => "\x60" ++ a ++ "\x60 or \x60" ++ b ++ "\x60"
  | names => "one of " ++ String.intercalate ", " (names.map fun n => "\x60" ++ n ++ "\x60")

/-- What is said of a fault, up to the place where it was met. -/
def Fault.message : Fault → String
  | endOfValue => "EOF while parsing a value"
  | endOfText => "EOF while parsing a string"
  | endOfList => "EOF while parsing a list"
  | endOfObject => "EOF while parsing an object"
  | expectedValue => "expected value"
  | expectedWord => "expected ident"
  | expectedColon => "expected \x60:\x60"
  | expectedListComma => "expected \x60,\x60 or \x60]\x60"
  | expectedObjectComma => "expected \x60,\x60 or \x60\x7d\x60"
  | keyNotText => "key must be a string"
  | trailingComma => "trailing comma"
  | trailingText => "trailing characters"
  | invalidEscape => "invalid escape"
  | loneSurrogate => "lone leading surrogate in hex escape"
  | unfinishedSurrogate => "unexpected end of hex escape"
  | controlCharacter => "control character (\\u0000-\\u001F) found while parsing a string"
  | invalidNumber => "invalid number"
  | numberOutOfRange => "number out of range"
  | tooDeep => "recursion limit exceeded"
  | wrongType found expected => "invalid type: " ++ found.describe ++ ", expected " ++ expected
  | wrongLength length expected =>
    "invalid length " ++ toString length ++ ", expected " ++ expected
  | missingField name => "missing field \x60" ++ name ++ "\x60"
  | duplicateField name => "duplicate field \x60" ++ name ++ "\x60"
  | unknownVariant name known =>
    "unknown variant \x60" ++ name ++ "\x60, expected " ++ oneOf known
  | refused reason => reason

mutual

def isEncodable : Json → Bool
  | integer i => decide (-9223372036854775808 ≤ i) && decide (i ≤ 18446744073709551615)
  | list items => areEncodable items
  | object members => haveEncodable members
  | null | boolean _ | float .. | text _ => true

def areEncodable : List Json → Bool
  | [] => true
  | x :: xs => isEncodable x && areEncodable xs

def haveEncodable : List (String × Json) → Bool
  | [] => true
  | (_, x) :: ms => isEncodable x && haveEncodable ms

end

def encode (j : Json) : Except Fault Json :=
  if j.isEncodable then .ok j.normal else .error .numberOutOfRange

end TurnTaking.Json
