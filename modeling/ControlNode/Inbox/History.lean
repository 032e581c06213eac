import ControlNode.Inbox

/-!
# Histories of an inbox

The operations on an inbox as data: packets are routed, commands are sent while further packets
arrive, and measurements are taken. `run` performs a history and returns what each operation
answered.
-/

namespace ControlNode.Inbox

/-- One operation on an inbox. -/
inductive Op where
  | route (p : Packet)
  /-- Sends a command. The packets arrive while its frame is written, and then the write fails if a
  failure is given. -/
  | send (command : Packet) (during : List Packet) (failure : Option Frame.Error)
  | receive

/-- What an operation answers. -/
inductive Reply where
  | routed
  /-- The answer to the command, and the frame if the write was tried. -/
  | sent (answer : Option Packet) (wire : Option (List UInt8))
  | received (p : Option Packet)
deriving DecidableEq, Repr

/-- A write that remembers the frame, lets the packets arrive, and fails if a failure is given. -/
def recording (during : List Packet) (failure : Option Frame.Error) :
    Write (Option (List UInt8)) := fun _ wire x => do
  let x ← x.routeAll during
  return (match failure with | some e => .error e | none => .ok (), some wire, x)

def step (timeout : Duration) (x : Inbox) : Op → Logged (Reply × Inbox)
  | .route p => do return (.routed, ← x.route p)
  | .send command during failure => do
    let (answer, wire, x) ← x.sendAndWait (recording during failure) timeout none command
    return (.sent answer wire, x)
  | .receive =>
    let (p, x) := x.receive
    return (.received p, x)

/-- Performs a history from the first operation to the last. -/
def run (timeout : Duration) (x : Inbox) : List Op → Logged (List Reply × Inbox)
  | [] => pure ([], x)
  | op :: ops => do
    let (reply, x) ← x.step timeout op
    let (replies, x) ← run timeout x ops
    return (reply :: replies, x)

end ControlNode.Inbox
