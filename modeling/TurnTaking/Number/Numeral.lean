import TurnTaking.Number.Binary

namespace TurnTaking

def digitsValue (ds : List Char) : Nat :=
  ds.foldl (fun n d => 10 * n + (d.toNat - 48)) 0

def spanDigits (cs : List Char) : List Char × List Char :=
  (cs.takeWhile Char.isDigit, cs.dropWhile Char.isDigit)

def spanSign : List Char → Bool × List Char
  | '-' :: cs => (true, cs)
  | '+' :: cs => (false, cs)
  | cs => (false, cs)

def wholeExponent? (cs : List Char) : Option Int :=
  let (negative, cs) := spanSign cs
  if cs.isEmpty || !cs.all Char.isDigit then none
  else some (if negative then -(digitsValue cs : Int) else digitsValue cs)

def exponentPart? : List Char → Option Int
  | [] => some 0
  | c :: cs => if c = 'e' || c = 'E' then wholeExponent? cs else none

namespace Format

def readMagnitude? (f : Format) (negative : Bool) (cs : List Char) : Option Binary :=
  let word := cs.map Char.toLower
  if word = "inf".toList || word = "infinity".toList then some (.infinite negative)
  else if word = "nan".toList then some .nan
  else
    let (whole, rest) := spanDigits cs
    let (fraction, rest) :=
      match rest with
      | '.' :: rest => spanDigits rest
      | rest => ([], rest)
    if whole.isEmpty && fraction.isEmpty then none
    else (exponentPart? rest).map fun e =>
      f.ofDecimal negative (digitsValue (whole ++ fraction)) (e - fraction.length)

def read? (f : Format) (s : String) : Option Binary :=
  let (negative, cs) := spanSign s.toList
  f.readMagnitude? negative cs

end Format

end TurnTaking
