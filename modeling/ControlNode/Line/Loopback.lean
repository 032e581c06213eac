import ControlNode.Line.Serial

/-!
# Loopback lines

A loopback line has two ends, and what is written at one end is read at the other. Several handles
can share an end. Shutting the line down at any handle ends it in both directions for all of them;
bytes that have arrived can still be read. When the last handle of an end is dropped the other end
is shut as well, and if bytes were left unread at the dropped end, the other end finds its
connection reset once it has read what it has.
-/

namespace ControlNode.Line

inductive Side where
  | host
  | device
deriving DecidableEq, Repr

def Side.other : Side → Side
  | .host => .device
  | .device => .host

/-- What one end has received and how it stands. -/
structure Endpoint where
  arrived : List UInt8 := []
  shut : Bool := false
  reset : Bool := false
deriving DecidableEq, Repr

/-- A loopback line with its handles. -/
structure Loopback where
  host : Endpoint := {}
  device : Endpoint := {}
  handles : List (String × Side) := [("host", .host), ("device", .device)]
deriving DecidableEq, Repr

namespace Loopback

def name : String := "loopback"

/-- The description of a handle of a loopback line. -/
def description : String := "SerialStream \x7b type: \"unix\" \x7d"

/-- Sets the milliseconds that reads wait for data. -/
def setTimeout (ms : Nat) : Except SerialError Unit := (checkTimeout ms).mapError .fault

def endpoint (l : Loopback) : Side → Endpoint
  | .host => l.host
  | .device => l.device

def setEndpoint (l : Loopback) (side : Side) (e : Endpoint) : Loopback :=
  match side with
  | .host => { l with host := e }
  | .device => { l with device := e }

/-- The end that a handle belongs to. -/
def side (l : Loopback) (handle : String) : Side := (l.handles.lookup handle).getD .host

def write (l : Loopback) (side : Side) (bytes : List UInt8) : Except Fault Nat × Loopback :=
  if (l.endpoint side).shut then (.error (.ofKind .brokenPipe), l)
  else
    let there := l.endpoint side.other
    (.ok bytes.length,
      l.setEndpoint side.other { there with arrived := there.arrived ++ bytes })

/-- Reads at most `limit` bytes at one end. Where some are asked for, none mean that the line has
ended. A read for none reports a reset and an empty line as any other does. -/
def read (l : Loopback) (side : Side) (limit : Nat) : Except Fault (List UInt8) × Loopback :=
  let here := l.endpoint side
  if here.arrived ≠ [] then
    (.ok (here.arrived.take limit),
      l.setEndpoint side { here with arrived := here.arrived.drop limit })
  else if here.reset then
    (.error (.ofKind .connectionReset), l.setEndpoint side { here with reset := false })
  else if here.shut then (.ok [], l)
  else (.error (.ofKind .wouldBlock), l)

/-- Ends the line in both directions. -/
def shutdown (l : Loopback) : Loopback :=
  { l with host := { l.host with shut := true }, device := { l.device with shut := true } }

def share (l : Loopback) (handle : String) (side : Side) : Loopback :=
  { l with handles := (handle, side) :: l.handles.filter (·.1 != handle) }

/-- Drops a handle, and with the last handle of an end the end itself. -/
def release (l : Loopback) (handle : String) : Loopback :=
  let side := l.side handle
  let l := { l with handles := l.handles.filter (·.1 != handle) }
  if l.handles.any (·.2 == side) then l
  else
    let there := l.endpoint side.other
    l.setEndpoint side.other
      { there with shut := true, reset := there.reset || (l.endpoint side).arrived != [] }

end Loopback

end ControlNode.Line
