import ControlNode.Line.Fault

/-!
# Lines to read from

A `Source` says what the reads of a line return, one arrival after the other. A read returns at
most as many bytes as it asks for; the others are kept for the next read. After the last arrival
the line is either closed, and every read returns no bytes, or quiet, and every read times out.
-/

namespace ControlNode.Line

/-- What a line has for a read that finds nothing kept. -/
inductive Arrival where
  | data (bytes : List UInt8)
  | fault (f : Fault)

/-- How a line goes on after its last arrival. -/
inductive Ending where
  | closed
  | quiet
deriving DecidableEq, Repr

/-- A line to read from. -/
structure Source where
  arrivals : List Arrival
  kept : List UInt8 := []
  ending : Ending := .closed
  calls : Nat := 0

/-- The weight of an arrival: one for itself and one for each byte. -/
def Arrival.weight : Arrival → Nat
  | .data bytes => bytes.length + 1
  | .fault _ => 1

namespace Source

/-- Reads at most `limit` bytes. No bytes mean that the line is closed. -/
def read (s : Source) (limit : Nat) : Except Fault (List UInt8) × Source :=
  match s.kept, s.arrivals with
  | b :: kept, _ =>
    (.ok ((b :: kept).take limit), { s with kept := (b :: kept).drop limit, calls := s.calls + 1 })
  | [], .data bytes :: arrivals =>
    (.ok (bytes.take limit), { s with arrivals, kept := bytes.drop limit, calls := s.calls + 1 })
  | [], .fault f :: arrivals => (.error f, { s with arrivals, calls := s.calls + 1 })
  | [], [] =>
    match s.ending with
    | .closed => (.ok [], { s with calls := s.calls + 1 })
    | .quiet => (.error (.ofKind .timedOut), { s with calls := s.calls + 1 })

/-- The bytes and arrivals that are left. It bounds the reads that return something. -/
def weight (s : Source) : Nat :=
  s.kept.length + s.arrivals.foldr (fun a rest => a.weight + rest) 0

/-- A read that returns bytes makes the line lighter. -/
theorem weight_read_of_bytes {s s' : Source} {limit : Nat} {bytes : List UInt8}
    (h : s.read limit = (.ok bytes, s')) (hne : bytes ≠ []) : s'.weight < s.weight := by
  unfold read at h
  split at h
  · rename_i b kept _ hkept
    simp only [Prod.mk.injEq, Except.ok.injEq] at h
    obtain ⟨rfl, rfl⟩ := h
    have hlimit : 0 < limit := Nat.pos_of_ne_zero (by rintro rfl; simp at hne)
    simp only [weight, hkept, List.length_drop, List.length_cons]
    omega
  · rename_i data arrivals hkept harr
    simp only [Prod.mk.injEq, Except.ok.injEq] at h
    obtain ⟨rfl, rfl⟩ := h
    simp only [weight, hkept, harr, List.length_drop, List.length_nil, List.foldr_cons,
      Arrival.weight]
    omega
  · simp at h
  · split at h
    · simp only [Prod.mk.injEq, Except.ok.injEq] at h
      exact absurd h.1.symm hne
    · simp at h

/-- A read that fails, other than by the silence of a quiet line, makes the line lighter. -/
theorem weight_read_of_fault {s s' : Source} {limit : Nat} {f : Fault}
    (h : s.read limit = (.error f, s')) (hf : f.isPollTimeout = false) :
    s'.weight < s.weight := by
  unfold read at h
  split at h
  · simp at h
  · simp at h
  · rename_i fault arrivals hkept harr
    simp only [Prod.mk.injEq, Except.error.injEq] at h
    obtain ⟨rfl, rfl⟩ := h
    simp [weight, harr, Arrival.weight]
  · split at h
    · simp at h
    · simp only [Prod.mk.injEq, Except.error.injEq] at h
      obtain ⟨rfl, -⟩ := h
      simp [Fault.isPollTimeout, Fault.ofKind] at hf

end Source

end ControlNode.Line
