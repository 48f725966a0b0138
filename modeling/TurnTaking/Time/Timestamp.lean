import TurnTaking.Number.Numeral
import TurnTaking.Text.Blank
import TurnTaking.Time.Calendar

/-!
Blanks may surround the separators, years may have a sign, and an offset may be written without its
colon.
-/

namespace TurnTaking

structure Timestamp where
  minutes : Int
  second : Nat
  nanosecond : Nat
  deriving DecidableEq, Repr

inductive TimestampError where
  | invalid
  | tooShort
  | tooLong
  | outOfRange
  | impossible
  deriving DecidableEq, Repr

def TimestampError.message : TimestampError → String
  | invalid => "input contains invalid characters"
  | tooShort => "premature end of input"
  | tooLong => "trailing input"
  | outOfRange => "input is out of range"
  | impossible => "no possible date and time matching input"

namespace Timestamp

def minutesInDay : Int := 24 * 60

def day (t : Timestamp) : Int := t.minutes / minutesInDay

def minuteOfDay (t : Timestamp) : Int := t.minutes % minutesInDay

def padded (width n : Nat) : List Char :=
  let ds := Nat.toDigits 10 n
  List.replicate (width - ds.length) '0' ++ ds

def writeYear (year : Int) : List Char :=
  if 0 ≤ year ∧ year ≤ 9999 then padded 4 year.natAbs
  else (if year < 0 then '-' else '+') :: padded 4 year.natAbs

def writeFraction (n : Nat) : List Char :=
  if n = 0 then []
  else if n % tenTo 6 = 0 then '.' :: padded 3 (n / tenTo 6)
  else if n % tenTo 3 = 0 then '.' :: padded 6 (n / tenTo 3)
  else '.' :: padded 9 n

def write (t : Timestamp) : String :=
  let d := Date.ofDays t.day
  let m := t.minuteOfDay.toNat
  String.ofList (writeYear d.year ++ '-' :: (padded 2 d.month ++ '-' :: (padded 2 d.day ++
    'T' :: (padded 2 (m / 60) ++ ':' :: (padded 2 (m % 60) ++ ':' :: (padded 2 t.second ++
    writeFraction t.nanosecond ++ ['Z']))))))

abbrev Reading := Except TimestampError

def readNumber (most : Nat) (cs : List Char) : Reading (Nat × List Char) :=
  let ds := (cs.take most).takeWhile Char.isDigit
  if ds.isEmpty then .error (if cs.isEmpty then .tooShort else .invalid)
  else if twoTo 63 ≤ digitsValue ds then .error .outOfRange
  else .ok (digitsValue ds, cs.drop ds.length)

def readBetween (least most : Nat) (cs : List Char) : Reading (Nat × List Char) := do
  let (n, rest) ← readNumber 2 (Text.trimStart cs)
  if least ≤ n ∧ n ≤ most then .ok (n, rest) else .error .outOfRange

def readYear (cs : List Char) : Reading (Int × List Char) := do
  let (year, rest) ←
    match Text.trimStart cs with
    | '-' :: cs => do
      let (n, rest) ← readNumber cs.length.succ cs
      pure (-(n : Int), rest)
    | '+' :: cs => do
      let (n, rest) ← readNumber cs.length.succ cs
      pure ((n : Int), rest)
    | cs => do
      let (n, rest) ← readNumber 4 cs
      pure ((n : Int), rest)
  if -twoTo 31 ≤ year ∧ year < twoTo 31 then .ok (year, rest) else .error .outOfRange

def readSeparator (c : Char) (cs : List Char) : Reading (List Char) :=
  match Text.trimStart cs with
  | [] => .error .tooShort
  | d :: rest => if d = c then .ok rest else .error .invalid

def readFraction : List Char → Reading (Nat × List Char)
  | '.' :: cs => do
    let (n, rest) ← readNumber 9 cs
    let count := cs.length - rest.length
    .ok (n * tenTo (9 - count), rest.dropWhile Char.isDigit)
  | cs => .ok (0, cs)

def isDateEnd (c : Char) : Bool := c = 'T' || c = 't' || c = ' '

def readDateEnd : List Char → Reading (List Char)
  | [] => .error .tooShort
  | c :: cs => if isDateEnd c then .ok cs else .error .invalid

def readPair (most : Char) (cs : List Char) : Reading (Nat × List Char) :=
  match cs with
  | a :: b :: rest =>
    if a.isDigit && b.isDigit then
      if a ≤ most then .ok (digitsValue [a, b], rest) else .error .outOfRange
    else .error .invalid
  | _ => .error (if (String.ofList cs).utf8ByteSize < 2 then .tooShort else .invalid)

def isOffsetColon (c : Char) : Bool := c = ':' || Text.isBlank c

def readSignedOffset : List Char → Reading (Int × List Char)
  | [] => .error .tooShort
  | sign :: cs =>
    if sign = '+' || sign = '-' || sign = '−' then do
      let (hours, rest) ← readPair '9' cs
      let (minutes, rest) ← readPair '5' (rest.dropWhile isOffsetColon)
      let total : Int := hours * 60 + minutes
      .ok (if sign = '+' then total else -total, rest)
    else .error .invalid

def readOffset (cs : List Char) : Reading (Int × List Char) :=
  match cs with
  | c :: rest =>
    if (cs.take 3).map Char.toUpper = ['U', 'T', 'C'] then .ok (0, cs.drop 3)
    else if c = 'Z' || c = 'z' then .ok (0, rest)
    else readSignedOffset cs
  | [] => .error .tooShort

def mostYear : Int := 262142

def leastYear : Int := -262143

def isYear (year : Int) : Bool :=
  decide (leastYear ≤ year ∧ year ≤ mostYear)

def read (s : String) : Reading Timestamp := do
  let (year, rest) ← readYear s.toList
  let (month, rest) ← readBetween 1 12 (← readSeparator '-' rest)
  let (day, rest) ← readBetween 1 31 (← readSeparator '-' rest)
  let (hour, rest) ← readBetween 0 23 (← readDateEnd rest)
  let (minute, rest) ← readBetween 0 59 (← readSeparator ':' rest)
  let (second, rest) ← readBetween 0 60 (← readSeparator ':' rest)
  let (nanosecond, rest) ← readFraction rest
  let (offset, rest) ← readOffset (Text.trimStart rest)
  if !(Text.trimStart rest).isEmpty then throw .tooLong
  let date : Date := ⟨year, month, day⟩
  if !isYear year || !date.isValid then throw .outOfRange
  if minutesInDay ≤ offset.natAbs then throw .outOfRange
  let t : Timestamp := ⟨date.toDays * minutesInDay + hour * 60 + minute - offset, second, nanosecond⟩
  if isYear (Date.ofDays t.day).year then return t else throw .impossible

end Timestamp

end TurnTaking
