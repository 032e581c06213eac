import ControlNode.Frame.Decoder

/-!
# Frames over two buffers

An endpoint of buffered byte streams hands its incoming bytes over in a source buffer and collects
its outgoing bytes in another. `Duplex` takes at most one packet from each call: it always empties
the source buffer into its decoder, so later packets of the same bytes wait there for later calls.
-/

namespace ControlNode.Frame

/-- The two directions of an endpoint. -/
structure Duplex where
  decoder : Decoder := {}
  source : List UInt8 := []
  sink : List UInt8 := []
deriving DecidableEq, Repr

namespace Duplex

def arrive (x : Duplex) (bytes : List UInt8) : Duplex :=
  { x with source := x.source ++ bytes }

/-- Empties the source buffer and takes the next packet, if one is complete. -/
def decode (x : Duplex) : Option Packet × Duplex :=
  let (p, d) := ((x.decoder.push x.source).next).value
  (p, { x with decoder := d, source := [] })

/-- The fault of a stream that ended with bytes left in the source buffer. -/
def bytesRemaining : Line.Fault := ⟨.other, "bytes remaining on stream"⟩

/-- Takes the next packet after the stream has ended; bytes that are then left are a fault. -/
def decodeEnd (x : Duplex) : Except Error (Option Packet) × Duplex :=
  let (p, x) := x.decode
  match p with
  | some p => (.ok (some p), x)
  | none => if x.source = [] then (.ok none, x) else (.error (.fault bytesRemaining), x)

/-- Adds the frame of a packet to the outgoing bytes. A packet without a frame leaves them. -/
def encode (x : Duplex) (p : Packet) : Except Error Unit × Duplex :=
  match appendTo x.sink p with
  | .ok sink => (.ok (), { x with sink })
  | .error e => (.error e, x)

end Duplex

end ControlNode.Frame
