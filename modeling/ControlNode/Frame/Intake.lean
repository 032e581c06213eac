import ControlNode.Frame.Decoder
import ControlNode.Line.Source

/-!
# Packets from a line

An `Intake` reads a line and returns one packet at a time. It reads only when the bytes at hand
complete no packet, and what it has read stays with it whatever the read of a packet ends with.
-/

namespace ControlNode.Frame

/-- The bytes that one read asks for. -/
def readLimit : Nat := 512

/-- A line and the decoder of its bytes. -/
structure Intake where
  decoder : Decoder := {}
  source : Line.Source

namespace Intake

/-- Takes the next packet, reading as often as needed. An interrupted read is repeated, and a read
that finds nothing in time ends without a packet. -/
def next (x : Intake) : Except Error (Option Packet) × Intake :=
  match x.decoder.next.value with
  | (some p, d) => (.ok (some p), { x with decoder := d })
  | (none, d) =>
    match _ : x.source.read readLimit with
    | (.ok [], s) => (.error .closed, ⟨d, s⟩)
    | (.ok (b :: bytes), s) => next ⟨d.push (b :: bytes), s⟩
    | (.error f, s) =>
      if f.isInterruption then next ⟨d, s⟩
      else if f.isPollTimeout then (.ok none, ⟨d, s⟩)
      else (.error (.fault f), ⟨d, s⟩)
termination_by x.source.weight
decreasing_by
  · exact Line.Source.weight_read_of_bytes ‹_› (by simp)
  · rename_i hf
    refine Line.Source.weight_read_of_fault ‹_› ?_
    simp only [Line.Fault.isInterruption, beq_iff_eq] at hf
    simp [Line.Fault.isPollTimeout, hf]

/-- Forgets a frame that has begun. -/
def reset (x : Intake) : Intake := { x with decoder := x.decoder.reset }

end Intake

end ControlNode.Frame
