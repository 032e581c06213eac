import ControlNode.Frame.Decoder

/-!
# The control node at the other end

A control node as its host sees it: it decodes the frames it hears, and answers each of them with
bytes that arrive in pieces, or with silence.
-/

namespace ControlNode

/-- A control node with the replies that it will give. -/
structure Node where
  decoder : Frame.Decoder := {}
  replies : List (Option (List (List UInt8)))
  /-- The packets that the node has heard. -/
  heard : List Packet := []

namespace Node

def hearPacket (n : Node) (p : Packet) : List (List UInt8) × Node :=
  (n.replies.head?.join.getD [],
    { n with replies := n.replies.tail, heard := n.heard ++ [p] })

def hearPackets (n : Node) : List Packet → List (List UInt8) × Node
  | [] => ([], n)
  | p :: later =>
    let (pieces, n) := n.hearPacket p
    let (more, n) := n.hearPackets later
    (pieces ++ more, n)

/-- Hears bytes of the line, and sends the replies to the packets that they complete. -/
def hear (n : Node) (bytes : List UInt8) : List (List UInt8) × Node :=
  let (packets, decoder) := (n.decoder.feed bytes).value
  hearPackets { n with decoder } packets

end Node

end ControlNode
