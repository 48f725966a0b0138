import TurnTaking.Number.Numeral
import TurnTaking.Time.Calendar
import TurnTaking.Toml.Text
import TurnTaking.Toml.Value

namespace TurnTaking.Toml

def readMoreDigits (isDigit : Char → Bool) : List Char → List Char × List Char
  | [] => ([], [])
  | '_' :: d :: cs =>
    if isDigit d then
      let (ds, rest) := readMoreDigits isDigit cs
      (d :: ds, rest)
    else ([], '_' :: d :: cs)
  | d :: cs =>
    if isDigit d then
      let (ds, rest) := readMoreDigits isDigit cs
      (d :: ds, rest)
    else ([], d :: cs)

def readDigits (isDigit : Char → Bool) : List Char → Option (List Char × List Char)
  | d :: cs =>
    if isDigit d then
      let (ds, rest) := readMoreDigits isDigit cs
      some (d :: ds, rest)
    else none
  | [] => none

def readWhole : List Char → Option (List Char × List Char)
  | '0' :: cs => some (['0'], cs)
  | cs => readDigits Char.isDigit cs

def isExponentMark (c : Char) : Bool := c = 'e' || c = 'E'

def readExponent : List Char → Option (Option Int × List Char)
  | c :: cs =>
    if isExponentMark c then do
      let (negative, cs) := spanSign cs
      let (ds, rest) ← readDigits Char.isDigit cs
      let n : Int := digitsValue ds
      some (some (if negative then -n else n), rest)
    else some (none, c :: cs)
  | [] => some (none, [])

def readFraction : List Char → Option (Option (List Char) × List Char)
  | '.' :: cs => (readDigits Char.isDigit cs).map fun r => (some r.1, r.2)
  | cs => some (none, cs)

def mostInteger : Nat := twoTo 63 - 1

def integer? (negative : Bool) (n : Nat) : Option Value :=
  if negative then (if n ≤ mostInteger + 1 then some (.integer (-n)) else none)
  else if n ≤ mostInteger then some (.integer n) else none

def float? (negative : Bool) (whole fraction : List Char) (exponent : Int) : Option Value :=
  match Format.double.ofDecimal negative (digitsValue (whole ++ fraction))
      (exponent - fraction.length) with
  | .infinite false => none
  | x => some (.float x)

def readDecimal (negative : Bool) (cs : List Char) : Option (Value × List Char) := do
  let (whole, rest) ← readWhole cs
  let (fraction, rest) ← readFraction rest
  let (exponent, rest) ← readExponent rest
  let value ←
    if fraction.isNone && exponent.isNone then integer? negative (digitsValue whole)
    else float? negative whole (fraction.getD []) (exponent.getD 0)
  some (value, rest)

def readBased (base : Nat) (cs : List Char) : Option (Value × List Char) := do
  let isDigit (c : Char) : Bool := (Text.hexDigit? c).any (· < base)
  let (ds, rest) ← readDigits isDigit cs
  let n := ds.foldl (fun n c => base * n + (Text.hexDigit? c).getD 0) 0
  let value ← integer? false n
  some (value, rest)

def readWord (negative : Bool) : List Char → Option (Value × List Char)
  | 'i' :: 'n' :: 'f' :: cs => some (.float (.infinite negative), cs)
  | 'n' :: 'a' :: 'n' :: cs => some (.float .nan, cs)
  | _ => none

def readNumber : List Char → Option (Value × List Char)
  | '0' :: 'x' :: cs => readBased 16 cs
  | '0' :: 'o' :: cs => readBased 8 cs
  | '0' :: 'b' :: cs => readBased 2 cs
  | cs =>
    let (negative, rest) := spanSign cs
    (readWord negative rest).orElse fun _ => readDecimal negative rest

def readFixed (count : Nat) (cs : List Char) : Option (Nat × List Char) :=
  let ds := cs.take count
  if ds.length = count ∧ ds.all Char.isDigit then some (digitsValue ds, cs.drop count) else none

def readPair (most : Nat) (cs : List Char) : Option (Nat × List Char) :=
  (readFixed 2 cs).filter fun r => decide (r.1 ≤ most)

def skipChar (c : Char) : List Char → Option (List Char)
  | [] => none
  | d :: cs => if d = c then some cs else none

def skipDate (cs : List Char) : Option (List Char) := do
  let (year, rest) ← readFixed 4 cs
  let (month, rest) ← readFixed 2 (← skipChar '-' rest)
  let (day, rest) ← readFixed 2 (← skipChar '-' rest)
  if (Date.mk year month day).isValid then some rest else none

def skipFraction : List Char → List Char
  | '.' :: d :: cs => if d.isDigit then cs.dropWhile Char.isDigit else '.' :: d :: cs
  | cs => cs

def skipTime (cs : List Char) : Option (List Char) := do
  let (_, rest) ← readPair 23 cs
  let (_, rest) ← readPair 59 (← skipChar ':' rest)
  let (_, rest) ← readPair 60 (← skipChar ':' rest)
  some (skipFraction rest)

def skipOffset : List Char → Option (List Char)
  | c :: cs =>
    if c = 'Z' || c = 'z' then some cs
    else if c = '+' || c = '-' then do
      let (_, rest) ← readPair 23 cs
      let (_, rest) ← readPair 59 (← skipChar ':' rest)
      some rest
    else some (c :: cs)
  | [] => some []

def isDateEnd (c : Char) : Bool := c = 'T' || c = 't' || c = ' '

def skipDayTime (cs : List Char) : Option (List Char) :=
  match cs with
  | c :: rest =>
    if isDateEnd c then
      match skipTime rest with
      | some rest => skipOffset rest
      | none => some cs
    else some cs
  | [] => some []

def readMoment (cs : List Char) : Option (Value × List Char) :=
  (((skipDate cs).bind skipDayTime).orElse fun _ => skipTime cs).map fun rest => (.moment, rest)

def readScalar (cs : List Char) : Option (Value × List Char) :=
  (readMoment cs).orElse fun _ => readNumber cs

end TurnTaking.Toml
