/-!
# Reading binary fields

A `Cursor` reads a field from the front of the bytes that are left, and fails if they are too few.
Numbers are read with the most significant byte first or last.
-/

namespace ControlNode.Measure

/-- A reader of binary fields: the bytes that are left are its state. -/
abbrev Cursor (α : Type) := StateT (List UInt8) Option α

namespace Cursor

/-- Four bytes as one number, the most significant first. -/
def word (a b c d : UInt8) : UInt32 :=
  UInt32.ofNat (((a.toNat * 256 + b.toNat) * 256 + c.toNat) * 256 + d.toNat)

def byte : Cursor UInt8
  | b :: rest => some (b, rest)
  | [] => none

/-- A number of four bytes, the most significant first. -/
def bigEndian : Cursor UInt32
  | a :: b :: c :: d :: rest => some (word a b c d, rest)
  | _ => none

/-- A number of four bytes, the most significant last. -/
def littleEndian : Cursor UInt32
  | a :: b :: c :: d :: rest => some (word d c b a, rest)
  | _ => none

/-- The same field so many times. -/
def times {α : Type} (field : Cursor α) : Nat → Cursor (List α)
  | 0 => pure []
  | n + 1 => do
    let x ← field
    let xs ← times field n
    return x :: xs

/-- One field for each item of a list. -/
def each {α β : Type} (field : α → Cursor β) : List α → Cursor (List β)
  | [] => pure []
  | a :: l => do
    let x ← field a
    let xs ← each field l
    return x :: xs

end Cursor

end ControlNode.Measure
