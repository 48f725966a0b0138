import TurnTaking.Number.Shortest

namespace TurnTaking

structure Layout where
  positional : Option (Int × Int)
  wholeFraction : Bool
  signedExponent : Bool
  tie : Tie

namespace Layout

def plain : Layout := ⟨none, false, false, .up⟩

def inspected : Layout := ⟨some (-4, 15), true, false, .up⟩

def jsonDouble : Layout := ⟨some (-5, 15), true, true, .even⟩

def jsonSingle : Layout := ⟨some (-6, 12), true, true, .even⟩

def isPositional (l : Layout) (exponent : Int) : Bool :=
  match l.positional with
  | none => true
  | some (least, most) => decide (least ≤ exponent) && decide (exponent ≤ most)

def writePositional (l : Layout) (ds : List Char) (exponent : Int) : List Char :=
  if exponent < 0 then
    '0' :: '.' :: (List.replicate (-exponent - 1).toNat '0' ++ ds)
  else
    let whole := exponent.toNat + 1
    let front := ds.take whole
    let back := ds.drop whole
    front ++ List.replicate (whole - front.length) '0' ++
      (if back.isEmpty then (if l.wholeFraction then ['.', '0'] else []) else '.' :: back)

def writeExponential (l : Layout) (ds : List Char) (exponent : Int) : List Char :=
  let back := ds.drop 1
  let sign := if exponent < 0 then ['-'] else if l.signedExponent then ['+'] else []
  ds.take 1 ++ (if back.isEmpty then [] else '.' :: back) ++ 'e' :: sign ++
    Nat.toDigits 10 exponent.natAbs

def significantDigits (n : Nat) : List Char :=
  ((Nat.toDigits 10 n).reverse.dropWhile (· == '0')).reverse

def writeDecimal (l : Layout) (d : Decimal) : List Char :=
  let exponent := d.exponent + (Nat.toDigits 10 d.digits).length - 1
  let ds := significantDigits d.digits
  if l.isPositional exponent then l.writePositional ds exponent
  else l.writeExponential ds exponent

end Layout

namespace Binary

def write (f : Format) (l : Layout) : Binary → String
  | nan => "NaN"
  | infinite negative => if negative then "-inf" else "inf"
  | finite negative m e =>
    let magnitude :=
      if m = 0 then l.writePositional ['0'] 0 else l.writeDecimal (shortest l.tie f m e)
    String.ofList (if negative then '-' :: magnitude else magnitude)

def toPlain (x : Binary) : String :=
  x.write .double .plain

end Binary

end TurnTaking
