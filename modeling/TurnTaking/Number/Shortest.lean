import TurnTaking.Number.Binary

/-! A decimal reads back as a number exactly if it lies in the rounding interval of the number; the
fewest digits are sought on coarser grids first. -/

namespace TurnTaking

structure Decimal where
  digits : Nat
  exponent : Int
  deriving DecidableEq, Repr

inductive Tie where
  | even
  | up
  deriving DecidableEq, Repr

structure Fraction where
  num : Nat
  den : Nat

namespace Fraction

def ofScaled (n : Nat) (e : Int) : Fraction :=
  ⟨n * twoTo e.toNat, twoTo (-e).toNat⟩

def le (a b : Fraction) : Bool :=
  decide (a.num * b.den ≤ b.num * a.den)

def lt (a b : Fraction) : Bool :=
  decide (a.num * b.den < b.num * a.den)

def shift (a : Fraction) (e : Int) : Fraction :=
  ⟨a.num * tenTo (-e).toNat, a.den * tenTo e.toNat⟩

end Fraction

structure RoundingInterval where
  value : Fraction
  low : Fraction
  high : Fraction
  closed : Bool

namespace RoundingInterval

def contains (i : RoundingInterval) (d : Fraction) : Bool :=
  if i.closed then i.low.le d && d.le i.high else i.low.lt d && d.lt i.high

def of (f : Format) (m : Nat) (e : Int) : RoundingInterval :=
  let q := f.lastBit ((m.log2 : Int) + e)
  let s := m * twoTo (e - q).toNat
  let below := if s = twoTo (f.precision - 1) ∧ f.lowest < q then 1 else 2
  { value := .ofScaled (4 * s) (q - 2)
    low := .ofScaled (4 * s - below) (q - 2)
    high := .ofScaled (4 * s + 2) (q - 2)
    closed := s % 2 = 0 }

end RoundingInterval

def decimalExponent (value : Fraction) (binary : Int) : Int :=
  let t := Int.fdiv (binary * 30103) 100000
  let power (t : Int) : Fraction := ⟨tenTo t.toNat, tenTo (-t).toNat⟩
  if value.lt (power t) then t - 1
  else if (power (t + 1)).le value then t + 1
  else t

def gridPoint? (tie : Tie) (i : RoundingInterval) (g : Int) : Option Decimal :=
  let v := i.value.shift g
  let d := v.num / v.den
  let rest := v.num % v.den
  let inside (n : Nat) : Bool := i.contains (Fraction.shift ⟨n, 1⟩ (-g))
  let upper : Bool :=
    if 2 * rest = v.den then tie = .up || d % 2 = 1 else decide (v.den < 2 * rest)
  match inside d, inside (d + 1) with
  | true, true => some ⟨if upper then d + 1 else d, g⟩
  | true, false => some ⟨d, g⟩
  | false, true => some ⟨d + 1, g⟩
  | false, false => none

/-- The shortest decimal of the positive number `m * 2 ^ e`. Seventeen digits tell all numbers of
the formats in use apart, so one of the grids has a hit. -/
def shortest (tie : Tie) (f : Format) (m : Nat) (e : Int) : Decimal :=
  let i := RoundingInterval.of f m e
  let t := decimalExponent i.value ((m.log2 : Int) + e)
  ((List.range 17).findSome? fun (n : Nat) => gridPoint? tie i (t - n)).getD ⟨0, 0⟩

end TurnTaking
