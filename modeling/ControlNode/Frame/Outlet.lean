import ControlNode.Frame.Wire
import ControlNode.Line.Sink

/-!
# Packets to a line

Frames are written to a line completely: what a write did not accept is offered again, and the
line is flushed after the last byte. Writes and flushes that were interrupted or would have
blocked are repeated; any other fault, and a write that accepts nothing, ends the sending.
-/

namespace ControlNode.Frame.Outlet

open Line

def writeAll (s : Sink) (bytes : List UInt8) : Except Error Unit × Sink :=
  match bytes with
  | [] => (.ok (), s)
  | b :: bytes =>
    match h : s.write (b :: bytes) with
    | (.ok 0, s') => (.error .closed, s')
    | (.ok (count + 1), s') => writeAll s' ((b :: bytes).drop (count + 1))
    | (.error f, s') =>
      if f.isTransient then writeAll s' (b :: bytes) else (.error (.fault f), s')
termination_by bytes.length + s.responses.length
decreasing_by
  · have := Sink.length_responses_write_le s (b :: bytes)
    simp only [h, List.drop_succ_cons, List.length_drop, List.length_cons] at this ⊢
    omega
  · have := Sink.length_responses_of_fault h
    simp only [List.length_cons]
    omega

def flush (s : Sink) : Except Error Unit × Sink :=
  match _ : s.flush with
  | (.ok (), s') => (.ok (), s')
  | (.error f, s') => if f.isTransient then flush s' else (.error (.fault f), s')
termination_by s.flushes.length
decreasing_by exact Sink.length_flushes_of_fault ‹_›

/-- Writes bytes that are already framed, and flushes. -/
def writeWire (s : Sink) (wire : List UInt8) : Except Error Unit × Sink :=
  match writeAll s wire with
  | (.ok (), s) => flush s
  | (.error e, s) => (.error e, s)

/-- Writes the frame of a packet, and flushes. A packet without a frame touches nothing. -/
def send (s : Sink) (p : Packet) : Except Error Unit × Sink :=
  match encode p with
  | .ok wire => writeWire s wire
  | .error e => (.error e, s)

end ControlNode.Frame.Outlet
