import ControlNode.Line.Fault

/-!
# Lines to write to

A `Sink` says how the writes and flushes of a line end, one response after the other. A write may
accept fewer bytes than it is given, none included. After the last response everything is accepted
and every flush succeeds.
-/

namespace ControlNode.Line

inductive Response where
  | accept (count : Nat)
  | fault (f : Fault)

/-- A line to write to. -/
structure Sink where
  responses : List Response := []
  flushes : List (Option Fault) := []
  accepted : List UInt8 := []
  writeCalls : Nat := 0
  flushCalls : Nat := 0

namespace Sink

/-- Offers bytes and tells how many were accepted, always a first part of them. -/
def write (s : Sink) (bytes : List UInt8) : Except Fault Nat × Sink :=
  match s.responses with
  | [] =>
    (.ok bytes.length, { s with accepted := s.accepted ++ bytes, writeCalls := s.writeCalls + 1 })
  | .accept count :: responses =>
    (.ok (min count bytes.length),
      { s with
        responses, accepted := s.accepted ++ bytes.take count, writeCalls := s.writeCalls + 1 })
  | .fault f :: responses => (.error f, { s with responses, writeCalls := s.writeCalls + 1 })

/-- Waits until all accepted bytes have left. -/
def flush (s : Sink) : Except Fault Unit × Sink :=
  match s.flushes with
  | [] => (.ok (), { s with flushCalls := s.flushCalls + 1 })
  | none :: flushes => (.ok (), { s with flushes, flushCalls := s.flushCalls + 1 })
  | some f :: flushes => (.error f, { s with flushes, flushCalls := s.flushCalls + 1 })

/-- A write that fails uses up a response. -/
theorem length_responses_of_fault {s s' : Sink} {bytes : List UInt8} {f : Fault}
    (h : s.write bytes = (.error f, s')) : s'.responses.length < s.responses.length := by
  unfold write at h
  split at h <;> simp_all
  obtain ⟨-, rfl⟩ := h
  simp

/-- No write makes the responses more. -/
theorem length_responses_write_le (s : Sink) (bytes : List UInt8) :
    (s.write bytes).2.responses.length ≤ s.responses.length := by
  unfold write
  split <;> simp_all

/-- A flush that fails uses up a response. -/
theorem length_flushes_of_fault {s s' : Sink} {f : Fault}
    (h : s.flush = (.error f, s')) : s'.flushes.length < s.flushes.length := by
  unfold flush at h
  split at h <;> simp_all
  obtain ⟨-, rfl⟩ := h
  simp

end Sink

end ControlNode.Line
