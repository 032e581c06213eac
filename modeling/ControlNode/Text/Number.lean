/-!
# Numbers in texts

Whole numbers written with decimal digits, of which there is at least one. Leading zeros do not
matter, and a sign may precede the digits where the reader allows one.
-/

namespace ControlNode.Text

def digitValue (c : Char) : Nat := c.toNat - 48

/-- The number that the digits spell. -/
def digitsValue (s : List Char) : Nat := s.foldl (fun n c => 10 * n + digitValue c) 0

def natural? (s : List Char) : Option Nat :=
  if s ≠ [] ∧ s.all Char.isDigit then some (digitsValue s) else none

/-- Reads digits, which a plus sign may precede. -/
def unsigned? (s : List Char) : Option Nat :=
  match s with
  | '+' :: digits => natural? digits
  | digits => natural? digits

def integer? (s : List Char) : Option Int :=
  match s with
  | '-' :: digits => (natural? digits).map fun n => -(n : Int)
  | digits => (unsigned? digits).map Int.ofNat

end ControlNode.Text
