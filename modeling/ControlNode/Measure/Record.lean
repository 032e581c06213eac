import ControlNode.Rail

/-!
# Measurement records

What a measurement packet says once it is decoded: samples of consumption on a rail, or samples of
radio activity.
-/

namespace ControlNode

/-- A single-precision number, given by its bits. -/
structure Single where
  bits : UInt32
deriving DecidableEq, Repr

/-- Whether the bits stand for no number. -/
def Single.isNaN (x : Single) : Bool := 0x7F800000 < x.bits &&& 0x7FFFFFFF

/-- A sample of consumption. The time is in seconds; a quantity that is not measured has no
value. -/
structure ConsumptionSample where
  timestamp : Float
  power : Option Single
  voltage : Option Single
  current : Option Single

/-- The value of a quantity in a sample. -/
def ConsumptionSample.get (s : ConsumptionSample) : Quantity → Option Single
  | .power => s.power
  | .voltage => s.voltage
  | .current => s.current

structure ConsumptionRecord where
  rail : Option Rail
  samples : List ConsumptionSample

/-- A sample of radio activity. The time is in seconds. -/
structure RadioSample where
  timestamp : Float
  channel : UInt8
  rssi : Int8

structure RadioRecord where
  samples : List RadioSample

/-- What a measurement packet says. -/
inductive Record where
  | consumption (r : ConsumptionRecord)
  | radio (r : RadioRecord)

def Record.sampleCount : Record → Nat
  | .consumption r => r.samples.length
  | .radio r => r.samples.length

end ControlNode
