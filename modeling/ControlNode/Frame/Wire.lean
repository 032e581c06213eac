import ControlNode.Line.Fault
import ControlNode.Packet

/-!
# Frames on the wire

A frame is the sync marker, one byte with the length of the packet, and the packet. The length
byte holds 1 to 255, so exactly the packets of these lengths can be framed.
-/

namespace ControlNode.Frame

/-- The byte that starts every frame. -/
def sync : UInt8 := 0x80

/-- The bytes of a frame before its packet: marker and length. -/
def headerLength : Nat := 2

/-- The longest packet that the length byte can announce. -/
def maxLength : Nat := 255

/-- Why a frame was not sent or received. -/
inductive Error where
  | packetTooLong (length limit : Nat)
  | emptyPacket
  | closed
  | fault (f : Line.Fault)
deriving DecidableEq, Repr

def Error.message : Error → String
  | .packetTooLong length limit =>
    "payload too large (" ++ toString length ++ " bytes, max " ++ toString limit ++ ")"
  | .emptyPacket => "payload is empty"
  | .closed => "connection closed"
  | .fault f => "frame I/O error: " ++ f.text

/-- The number of bytes that a packet takes on the wire. -/
def wireSize (p : Packet) : Nat := headerLength + p.length

/-- The frame of a packet, for packets that have one. -/
def encode (p : Packet) : Except Error (List UInt8) :=
  if maxLength < p.length then .error (.packetTooLong p.length maxLength)
  else if p = [] then .error .emptyPacket
  else .ok (sync :: UInt8.ofNat p.length :: p)

theorem encode_of_length {p : Packet} (h₁ : 1 ≤ p.length) (h₂ : p.length ≤ maxLength) :
    encode p = .ok (sync :: UInt8.ofNat p.length :: p) := by
  have hne : p ≠ [] := by rintro rfl; simp at h₁
  simp [encode, hne, Nat.not_lt.2 h₂]

/-- The frame of a packet added to bytes that are already waiting to be sent. -/
def appendTo (waiting : List UInt8) (p : Packet) : Except Error (List UInt8) :=
  (encode p).map (waiting ++ ·)

end ControlNode.Frame
