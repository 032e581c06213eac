import ControlNode.Session.Basic

/-!
# Prepared answers

A carrier that keeps the packets of all commands and gives prepared answers, one after the other.
When they are used up there is no answer.
-/

namespace ControlNode

/-- The prepared answers that are left and the packets that were sent. -/
structure Replay where
  answers : List (Option Packet)
  sent : List Packet := []

namespace Replay

/-- Keeps a packet and gives the next answer. -/
def exchange (r : Replay) (p : Packet) : Option Packet × Replay :=
  (r.answers.head?.join, { answers := r.answers.tail, sent := r.sent ++ [p] })

instance : Carrier Replay where
  exchange r p := pure (r.exchange p)

end Replay

end ControlNode
