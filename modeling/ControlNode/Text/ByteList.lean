/-!
# Bytes written as text

Byte sequences appear in messages as bracketed lists, in decimal (`[112, 1]`) or with two
hexadecimal digits a byte (`[70, 0a]`).
-/

namespace ControlNode.Text

/-- The items between brackets, separated by a comma and a space. -/
def bracketed (items : List String) : String :=
  "[" ++ ", ".intercalate items ++ "]"

/-- Numbers in decimal, as a bracketed list. -/
def natList (l : List Nat) : String :=
  bracketed (l.map fun n => toString n)

def byteList (bytes : List UInt8) : String :=
  natList (bytes.map UInt8.toNat)

/-- The hexadecimal digit of a number below 16, in lower case. -/
def hexDigit (n : Nat) : Char :=
  if n < 10 then Char.ofNat (48 + n) else Char.ofNat (87 + n)

def hexByte (b : UInt8) : String :=
  String.ofList [hexDigit (b.toNat / 16), hexDigit (b.toNat % 16)]

/-- Bytes with two hexadecimal digits each, as a bracketed list. -/
def hexList (bytes : List UInt8) : String :=
  bracketed (bytes.map hexByte)

end ControlNode.Text
