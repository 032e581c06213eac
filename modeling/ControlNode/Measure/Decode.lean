import ControlNode.Log
import ControlNode.Measure.Cursor
import ControlNode.Measure.Layout
import ControlNode.Measure.Record
import ControlNode.Packet
import ControlNode.Text.ByteList

/-!
# Decoding measurement packets

A consumption packet is its tag, the flags byte of its setup, the number of samples, and the
samples, most significant bytes first. Its ticks of 1/32768 s count from the time reference.

A radio packet is its tag, the number of samples, the seconds of its start, and the samples, most
significant bytes last. Its microseconds count from the start.

The length of a packet is checked before any sample is read, so that no sample is ever cut short.
-/

namespace ControlNode

inductive DecodeError where
  | truncated (length : Nat)
  | unexpectedTag (tag : UInt8)
  | notConfigured
  | lengthMismatch (length expected : Nat)
  | noTimeReference
deriving DecidableEq, Repr

def DecodeError.message : DecodeError → String
  | .truncated length => "packet truncated (" ++ toString length ++ " bytes)"
  | .unexpectedTag tag => "unexpected packet tag 0x" ++ Text.hexByte tag
  | .notConfigured => "no consumption configuration acknowledged"
  | .lengthMismatch length expected =>
    "invalid packet length " ++ toString length ++ ", expected " ++ toString expected
  | .noTimeReference => "no time reference set"

namespace Measure

def consumptionTag : UInt8 := 0xFF

def radioTag : UInt8 := 0xFE

/-- The bytes of a consumption packet before its samples. -/
def consumptionHeader : Nat := 3

/-- The bytes of a radio packet before its samples. -/
def radioHeader : Nat := 6

def radioSampleLength : Nat := 6

def ticksPerSecond : Float := 32768

def microsPerSecond : Float := 1000000

/-- The value that was read for a quantity. -/
def valueOf (values : List (Quantity × Single)) (q : Quantity) : Option Single :=
  values.lookup q

def readValue (q : Quantity) : Cursor (Quantity × Single) := do
  return (q, ⟨← Cursor.bigEndian⟩)

def readConsumptionSample (quantities : List Quantity) (reference : Float) :
    Cursor ConsumptionSample := do
  let tick ← Cursor.bigEndian
  let values ← Cursor.each readValue quantities
  return {
    timestamp := reference + tick.toFloat / ticksPerSecond
    power := valueOf values .power
    voltage := valueOf values .voltage
    current := valueOf values .current }

def readRadioSample (start : Float) : Cursor RadioSample := do
  let micros ← Cursor.littleEndian
  let channel ← Cursor.byte
  let rssi ← Cursor.byte
  return { timestamp := start + micros.toFloat / microsPerSecond, channel, rssi := rssi.toInt8 }

/-- Reads the start of a radio packet and its samples. -/
def readRadioSamples (count : Nat) : Cursor (List RadioSample) := do
  let start ← Cursor.littleEndian
  (readRadioSample start.toFloat).times count

/-- The event that reports a setup other than the acknowledged one. -/
def configMismatch (received acknowledged : UInt8) : Log.Event :=
  ⟨.warn, "consumption config byte mismatch, decoding with acknowledged layout",
    [("received", .number received.toNat), ("acknowledged", .number acknowledged.toNat)]⟩

/-- Decodes a consumption packet with the acknowledged layout, whatever setup the packet names. -/
def decodeConsumption (layout : Option Layout) (reference : Option Float) (p : Packet) :
    Logged (Except DecodeError ConsumptionRecord) :=
  match p with
  | tag :: config :: count :: body =>
    if tag ≠ consumptionTag then pure (.error (.unexpectedTag tag)) else
    match layout with
    | none => pure (.error .notConfigured)
    | some layout =>
      let expected := consumptionHeader + count.toNat * layout.sampleLength
      if p.length ≠ expected then pure (.error (.lengthMismatch p.length expected)) else
      match reference with
      | none => pure (.error .noTimeReference)
      | some reference =>
        let warning := if config = layout.configByte then []
          else [configMismatch config layout.configByte]
        let sample := readConsumptionSample layout.quantities reference
        match (sample.times count.toNat).run body with
        | some (samples, _) => ⟨.ok { rail := layout.rail, samples }, warning⟩
        | none => ⟨.error (.truncated p.length), warning⟩
  | _ => pure (.error (.truncated p.length))

def decodeRadio (p : Packet) : Except DecodeError RadioRecord :=
  if p.length < radioHeader then .error (.truncated p.length) else
  match p with
  | tag :: count :: body =>
    if tag ≠ radioTag then .error (.unexpectedTag tag) else
    let expected := radioHeader + count.toNat * radioSampleLength
    if p.length ≠ expected then .error (.lengthMismatch p.length expected) else
    match (readRadioSamples count.toNat).run body with
    | some (samples, _) => .ok { samples }
    | none => .error (.truncated p.length)
  | _ => .error (.truncated p.length)

end Measure

end ControlNode
