import ControlNode.Decimal.Shortest

/-!
# Decimal notation

Numbers are written with the digits of their shortest decimal. Exponents in a range are written
positionally, always with a fraction; other numbers have one digit before the point and an exponent
after the digits. A `Style` holds what differs from one output to another.
-/

namespace ControlNode.Decimal

structure Style where
  format : Format
  /-- The lowest exponent that is written positionally. -/
  lowest : Int
  /-- The highest exponent that is written positionally. -/
  highest : Int
  /-- Whether an exponent that is not negative has a sign. -/
  plus : Bool
  tie : Tie
  nan : String
  infinite : String
  negativeInfinite : String

/-- Positional notation, with at least one digit on each side of the point. -/
def positional (d : Digits) : List Char :=
  if d.exponent < 0 then
    '0' :: '.' :: List.replicate (-d.exponent - 1).toNat '0' ++ d.digits
  else
    let whole := d.exponent.toNat + 1
    let padded := d.digits ++ List.replicate (whole - d.digits.length) '0'
    let fraction := padded.drop whole
    padded.take whole ++ '.' :: if fraction = [] then ['0'] else fraction

/-- One digit before the point, and an exponent. -/
def scientific (plus : Bool) (d : Digits) : List Char :=
  let sign := if d.exponent < 0 then ['-'] else if plus then ['+'] else []
  let fraction := d.digits.drop 1
  d.digits.take 1 ++ (if fraction = [] then [] else '.' :: fraction) ++ 'e' :: sign ++
    Nat.toDigits 10 d.exponent.natAbs

def Style.digits (s : Style) (d : Digits) : List Char :=
  if s.lowest ≤ d.exponent ∧ d.exponent ≤ s.highest then positional d else scientific s.plus d

def Style.write (s : Style) (bits : Nat) : String :=
  match Binary.ofBits s.format bits with
  | .nan => s.nan
  | .infinite negative => if negative then s.negativeInfinite else s.infinite
  | .finite negative x =>
    let text := if x.m = 0 then ['0', '.', '0'] else s.digits (x.shortest s.tie)
    String.ofList (if negative then '-' :: text else text)

end ControlNode.Decimal
