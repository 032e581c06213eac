import ControlNode.Cli.Desk

/-!
# Hosts

What a run finds on the host that it runs on: the lines to devices and the devices that are listed,
a handler for interrupts and a worker for measurements, and what happens while a watch goes on. All
of this is given; any of it can fail.
-/

namespace ControlNode.Cli

structure Host where
  /-- Opens the line to the node of a target, and starts to listen to it. -/
  line : Target → Except ConnectionError Node
  devices : Except Line.SerialError (List String) := .ok []
  /-- Whether interrupts can be noted; a text tells why they cannot. -/
  handler : Except String Unit := .ok ()
  /-- Whether the worker of a watch can be started; a text tells why it cannot. -/
  worker : Except String Unit := .ok ()
  /-- How far the worker gets while the commands of a watch are performed. -/
  paces : List Pace := []
  /-- What happens in the turns of a watch. -/
  moments : List Moment := []

/-- The failure of a run whose device cannot be opened. -/
def Target.refusal (t : Target) (e : ConnectionError) : Failure :=
  .ofConnectionError ("cannot open " ++ t.path) e

namespace Host

/-- The milliseconds that reads of the line wait for data. -/
def pollTime : Nat := 100

def connect (h : Host) (target : Target) : Except ConnectionError Connection := do
  Connection.start (← h.line target) target.timeout pollTime

/-- Connects to the device of a target for a run. -/
def «open» (h : Host) (target : Target) : Except Failure Connection :=
  (h.connect target).mapError target.refusal

end Host

end ControlNode.Cli
