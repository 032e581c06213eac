/-!
# Rails and quantities

The control node measures one power rail at a time, and on it any of power, voltage and current.
A flags byte names both: the quantities by its bits 0 to 2, the rail by its bits 4 to 6, of which
exactly one is set.
-/

namespace ControlNode

/-- A power rail of the open node. -/
inductive Rail where
  | v3_3
  | v5
  | battery
deriving DecidableEq, Repr

namespace Rail

/-- The bit of a rail in a flags byte. -/
def flag : Rail → UInt8
  | .v3_3 => 0x10
  | .v5 => 0x20
  | .battery => 0x40

/-- The bits of a flags byte that name the rail. -/
def mask : UInt8 := 0x70

/-- The rail that a flags byte names, if it names exactly one. -/
def ofFlags? (flags : UInt8) : Option Rail :=
  if flags &&& mask = flag .v3_3 then some .v3_3
  else if flags &&& mask = flag .v5 then some .v5
  else if flags &&& mask = flag .battery then some .battery
  else none

/-- The name of a rail in records. -/
def name : Rail → String
  | .v3_3 => "3.3V"
  | .v5 => "5V"
  | .battery => "BATT"

/-- The name of a rail in diagnostics. -/
def symbol : Rail → String
  | .v3_3 => "V3_3"
  | .v5 => "V5"
  | .battery => "Battery"

end Rail

/-- A quantity that is measured on a rail. -/
inductive Quantity where
  | power
  | voltage
  | current
deriving DecidableEq, Repr

namespace Quantity

/-- All quantities, in the order of their values in a sample. -/
def all : List Quantity := [.power, .voltage, .current]

/-- The bit of a quantity in a flags byte. -/
def flag : Quantity → UInt8
  | .power => 1
  | .voltage => 2
  | .current => 4

def letter : Quantity → String
  | .power => "p"
  | .voltage => "v"
  | .current => "c"

/-- The name of a quantity in diagnostics. -/
def symbol : Quantity → String
  | .power => "Power"
  | .voltage => "Voltage"
  | .current => "Current"

end Quantity

end ControlNode
