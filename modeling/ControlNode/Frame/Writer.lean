import ControlNode.Frame.Outlet

/-!
# Packets to a line, one after the other

A `Writer` keeps a line and a buffer in which the frames of packets are put together. The buffer
is emptied before each packet, so nothing of an earlier frame is written again.
-/

namespace ControlNode.Frame

/-- A line and the buffer of the frame to be written. -/
structure Writer where
  sink : Line.Sink
  buffer : List UInt8 := []

namespace Writer

def clear (w : Writer) : Writer := { w with buffer := [] }

/-- Writes the frame of a packet, and flushes. A packet without a frame leaves the line alone. -/
def send (w : Writer) (p : Packet) : Except Error Unit × Writer :=
  let w := w.clear
  match appendTo w.buffer p with
  | .ok buffer =>
    let (r, sink) := Outlet.writeWire w.sink buffer
    (r, { sink, buffer })
  | .error e => (.error e, w)

/-- What a writer is asked to do. -/
inductive Step where
  | send (p : Packet)
  | wire (bytes : List UInt8)
  | flush

def step (w : Writer) : Step → Except Error Unit × Writer
  | .send p => w.send p
  | .wire bytes =>
    let (r, sink) := Outlet.writeWire w.sink bytes
    (r, { w with sink })
  | .flush =>
    let (r, sink) := Outlet.flush w.sink
    (r, { w with sink })

/-- Takes steps in order; the results are one for each. -/
def run (w : Writer) : List Step → List (Except Error Unit) × Writer
  | [] => ([], w)
  | s :: steps =>
    let (r, w) := w.step s
    let (later, w) := w.run steps
    (r :: later, w)

end Writer

end ControlNode.Frame
