import ControlNode.Frame.Intake
import ControlNode.Inbox

/-!
# Listening to a line

A `Listener` takes one packet after the other from a line and routes it to the inbox, until the
line ends or fails or the listener is told to stop. It works in turns: before each turn it looks
whether it has been stopped, and a turn in which no packet arrives in time changes nothing.
-/

namespace ControlNode

/-- A line that is listened to, and whether the listening goes on. -/
structure Listener where
  intake : Frame.Intake
  running : Bool := true

namespace Listener

/-- One turn: a packet is routed, nothing arrives, or the line is over. -/
def turn (l : Listener) (x : Inbox) : Listener × Inbox :=
  if l.running then
    match l.intake.next with
    | (.ok (some p), intake) => ({ l with intake }, (x.route p).value)
    | (.ok none, intake) => ({ l with intake }, x)
    | (.error _, intake) => ({ intake, running := false }, x)
  else (l, x)

def turns : Nat → Listener → Inbox → Listener × Inbox
  | 0, l, x => (l, x)
  | n + 1, l, x =>
    let (l, x) := l.turn x
    turns n l x

/-- Stops the listening before its next turn. -/
def stop (l : Listener) : Listener := { l with running := false }

/-- More data, or the end, arrives on the line. -/
def arrive (l : Listener) (arrivals : List Line.Arrival) : Listener :=
  { l with intake.source.arrivals := l.intake.source.arrivals ++ arrivals }

/-- As many turns as it takes to route everything that has arrived. -/
def catchUp (l : Listener) (x : Inbox) : Listener × Inbox :=
  turns (l.intake.source.weight + l.intake.decoder.weight + 1) l x

end Listener

end ControlNode
