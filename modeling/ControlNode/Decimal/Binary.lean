/-!
# Binary numbers by their bits

A binary number format has a sign bit, an exponent field and a fraction field. `Binary.ofBits`
reads bits as a value: no number, an infinity, or `m * 2 ^ q` with a sign.
-/

namespace ControlNode.Decimal

/-- The widths of the exponent field and the fraction field. -/
structure Format where
  exponentBits : Nat
  fractionBits : Nat

def Format.single : Format := ⟨8, 23⟩

def Format.double : Format := ⟨11, 52⟩

/-- The size of a finite number: `m * 2 ^ q`. The gap to the next smaller number is half of the gap
to the next larger one when it is narrow. -/
structure Magnitude where
  m : Nat
  q : Int
  narrowBelow : Bool
deriving DecidableEq, Repr

/-- What the bits of a binary number stand for. -/
inductive Binary where
  | nan
  | infinite (negative : Bool)
  | finite (negative : Bool) (size : Magnitude)
deriving DecidableEq, Repr

/-- The value of a finite number with the given fields: an exponent field of zero means that the
leading bit is not set. -/
def Format.magnitude (f : Format) (exponent fraction : Nat) : Magnitude :=
  let lowest : Int := 2 - Nat.pow 2 (f.exponentBits - 1) - f.fractionBits
  if exponent = 0 then ⟨fraction, lowest, false⟩
  else
    ⟨Nat.pow 2 f.fractionBits + fraction, lowest + (exponent - 1), fraction = 0 && 1 < exponent⟩

def Binary.ofBits (f : Format) (bits : Nat) : Binary :=
  let fraction := bits % Nat.pow 2 f.fractionBits
  let exponent := bits / Nat.pow 2 f.fractionBits % Nat.pow 2 f.exponentBits
  let negative := bits / Nat.pow 2 (f.fractionBits + f.exponentBits) % 2 = 1
  if exponent = Nat.pow 2 f.exponentBits - 1 then
    if fraction = 0 then .infinite negative else .nan
  else .finite negative (f.magnitude exponent fraction)

end ControlNode.Decimal
