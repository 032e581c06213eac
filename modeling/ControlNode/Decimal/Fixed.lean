import ControlNode.Decimal.Binary

/-!
# Fixed places

Numbers with a fixed count of decimal places. The exact binary value is rounded to the nearest
multiple of the last place, and a value in the middle goes to the even one.
-/

namespace ControlNode.Decimal

/-- The nearest whole number to a quotient; of two equally near ones the even one. -/
def roundDiv (num den : Nat) : Nat :=
  let low := num / den
  let rest := num % den
  if 2 * rest < den then low
  else if den < 2 * rest then low + 1
  else if low % 2 = 0 then low else low + 1

/-- The number as a multiple of ten to the minus `places`. -/
def Magnitude.rounded (x : Magnitude) (places : Nat) : Nat :=
  roundDiv (x.m * Nat.pow 2 x.q.toNat * Nat.pow 10 places) (Nat.pow 2 (-x.q).toNat)

/-- A whole number of units of the last place, with the point before these places. -/
def withPlaces (places n : Nat) : List Char :=
  let digits := Nat.toDigits 10 (n % Nat.pow 10 places)
  Nat.toDigits 10 (n / Nat.pow 10 places) ++
    '.' :: List.replicate (places - digits.length) '0' ++ digits

/-- Writes a number with a fixed count of places. -/
def fixed (f : Format) (places bits : Nat) : String :=
  match Binary.ofBits f bits with
  | .nan => "NaN"
  | .infinite negative => if negative then "-inf" else "inf"
  | .finite negative x =>
    let text := withPlaces places (x.rounded places)
    String.ofList (if negative then '-' :: text else text)

end ControlNode.Decimal
