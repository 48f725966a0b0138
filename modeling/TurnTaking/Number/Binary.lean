import TurnTaking.Number.Power

/-!
Binary floating-point numbers as exact values. A format enters only where a value is rounded to it,
so a number keeps its identity when it is widened.
-/

namespace TurnTaking

/-- A binary format: significands of at most `precision` bits, no bit below `2 ^ lowest`, and
magnitudes below `2 ^ limit`. -/
structure Format where
  precision : Nat
  lowest : Int
  limit : Int
  deriving DecidableEq, Repr

namespace Format

def single : Format := ⟨24, -149, 128⟩

def double : Format := ⟨53, -1074, 1024⟩

end Format

/-- A floating-point number. A finite one is `significand * 2 ^ exponent`, with an odd significand,
or zero with exponent zero. -/
inductive Binary where
  | nan
  | infinite (negative : Bool)
  | finite (negative : Bool) (significand : Nat) (exponent : Int)
  deriving DecidableEq, Repr

namespace Binary

def twos (n : Nat) : Nat :=
  (Nat.gcd n (twoTo n.log2)).log2

def scaled (negative : Bool) (n : Nat) (e : Int) : Binary :=
  if n = 0 then .finite negative 0 0
  else .finite negative (n / twoTo (twos n)) (e + twos n)

def zero : Binary := .finite false 0 0

def one : Binary := .finite false 1 0

def two : Binary := .finite false 1 1

def half : Binary := .finite false 1 (-1)

def isNan : Binary → Bool
  | nan => true
  | _ => false

def negate : Binary → Binary
  | nan => nan
  | infinite negative => infinite !negative
  | finite negative m e => finite (!negative) m e

def numerator (base : Int) (negative : Bool) (m : Nat) (e : Int) : Int :=
  let n : Int := m * twoTo (e - base).toNat
  if negative then -n else n

def le : Binary → Binary → Bool
  | nan, _ => false
  | _, nan => false
  | infinite true, _ => true
  | _, infinite false => true
  | infinite false, _ => false
  | _, infinite true => false
  | finite n m e, finite n' m' e' => numerator (min e e') n m e ≤ numerator (min e e') n' m' e'

end Binary

def roundHalfEven (num den : Nat) : Nat :=
  let q := num / den
  let r := num % den
  if 2 * r < den then q else if den < 2 * r then q + 1 else q + q % 2

def binaryExponent (num den : Nat) : Int :=
  let e : Int := (num.log2 : Int) - den.log2
  if den * twoTo e.toNat ≤ num * twoTo (-e).toNat then e else e - 1

namespace Format

def lastBit (f : Format) (e : Int) : Int :=
  max f.lowest (e - (f.precision - 1))

/-- The number of the format nearest to `num / den`; a half goes to the even neighbour, and what
reaches `2 ^ limit` becomes infinite. -/
def round (f : Format) (negative : Bool) (num den : Nat) : Binary :=
  if num = 0 then .finite negative 0 0
  else
    let q := f.lastBit (binaryExponent num den)
    let n := roundHalfEven (num * twoTo (-q).toNat) (den * twoTo q.toNat)
    if f.limit ≤ (n.log2 : Int) + q then .infinite negative else .scaled negative n q

def cast (f : Format) : Binary → Binary
  | .nan => .nan
  | .infinite negative => .infinite negative
  | .finite negative m e => f.round negative (m * twoTo e.toNat) (twoTo (-e).toNat)

def ofNat (f : Format) (n : Nat) : Binary :=
  f.round false n 1

def ofInt (f : Format) (i : Int) : Binary :=
  f.round (decide (i < 0)) i.natAbs 1

def ofDecimal (f : Format) (negative : Bool) (digits : Nat) (exponent : Int) : Binary :=
  if digits = 0 then .finite negative 0 0
  else if f.limit ≤ exponent then .infinite negative
  else if (digits.log2 : Int) + 2 + exponent ≤ f.lowest then .finite negative 0 0
  else f.round negative (digits * tenTo exponent.toNat) (tenTo (-exponent).toNat)

def mul (f : Format) : Binary → Binary → Binary
  | .finite n m e, .finite n' m' e' =>
    f.round (n != n') (m * m' * twoTo (e + e').toNat) (twoTo (-(e + e')).toNat)
  | .nan, _ => .nan
  | _, .nan => .nan
  | .infinite n, .finite n' m _ => if m = 0 then .nan else .infinite (n != n')
  | .finite n m _, .infinite n' => if m = 0 then .nan else .infinite (n != n')
  | .infinite n, .infinite n' => .infinite (n != n')

def div (f : Format) : Binary → Binary → Binary
  | .finite n m e, .finite n' m' e' =>
    f.round (n != n') (m * twoTo (e - e').toNat) (m' * twoTo (e' - e).toNat)
  | .infinite n, .finite n' _ _ => .infinite (n != n')
  | .finite n _ _, .infinite n' => .finite (n != n') 0 0
  | _, _ => .nan

end Format

namespace Binary

def clamp (low high x : Binary) : Binary :=
  if x.isNan then x
  else if !low.le x then low
  else if !x.le high then high
  else x

end Binary

end TurnTaking
