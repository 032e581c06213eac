import ControlNode.Rail

/-!
# The layout of consumption samples

Which values a consumption sample holds is not told by the sample. It follows from the flags byte
of the setup that the control node acknowledged last: a tick, and after it one value of four bytes
for each selected quantity.
-/

namespace ControlNode

/-- The layout of samples, given by the acknowledged flags byte. -/
structure Layout where
  configByte : UInt8
deriving DecidableEq, Repr

namespace Layout

/-- Whether samples hold a value of the quantity. -/
def has (l : Layout) (q : Quantity) : Bool := l.configByte &&& q.flag != 0

/-- The quantities in the order of their values. -/
def quantities (l : Layout) : List Quantity := Quantity.all.filter l.has

/-- The letters of all fields of a sample; the tick comes first. -/
def letters (l : Layout) : List String := "t" :: l.quantities.map Quantity.letter

/-- The bytes of a sample. -/
def sampleLength (l : Layout) : Nat := 4 + 4 * l.quantities.length

/-- The rail that is measured, if the flags name one. -/
def rail (l : Layout) : Option Rail := Rail.ofFlags? l.configByte

/-- How the rail of a layout is written in diagnostics. -/
def railText (l : Layout) : String :=
  match l.rail with
  | some r => "Some(" ++ r.symbol ++ ")"
  | none => "None"

end Layout

end ControlNode
