/-!
# Packets

A packet is what the control node and its host exchange: a sequence of bytes, the first of which
is the tag. Of the packets that arrive, measurements go one way, answers to commands another, and
error reports are only counted; `Packet.kind?` decides by the tag alone.
-/

namespace ControlNode

/-- The bytes of a packet; the first one is its tag. -/
abbrev Packet := List UInt8

namespace Packet

/-- The class of an arriving packet. -/
inductive Kind where
  | measurement
  | errorReport
  | answer
deriving DecidableEq, Repr

def Kind.name : Kind → String
  | .measurement => "MEASURE"
  | .errorReport => "ERROR"
  | .answer => "ANSWER"

def errorTag : UInt8 := 0xEE

/-- The class that a tag announces: measurements have the high nibble F, error reports the tag EE,
and all else is an answer. -/
def Kind.ofTag (tag : UInt8) : Kind :=
  if tag &&& 0xF0 = 0xF0 then .measurement
  else if tag = errorTag then .errorReport
  else .answer

/-- The tag of a packet, if it has any byte. -/
def tag? (p : Packet) : Option UInt8 := p.head?

/-- The class of a packet, if it has a tag. -/
def kind? (p : Packet) : Option Kind := p.tag?.map Kind.ofTag

@[simp] theorem kind?_nil : kind? [] = none := rfl

@[simp] theorem kind?_cons (tag : UInt8) (rest : List UInt8) :
    kind? (tag :: rest) = some (Kind.ofTag tag) := rfl

end Packet

end ControlNode
