import ControlNode.Frame.Wire
import ControlNode.Log

/-!
# Frames from a byte stream

A `Decoder` holds the bytes that were pushed and not yet used, and how far it is into a frame.
`next` scans these bytes up to the end of the next frame, dropping what lies outside of frames;
`feed` pushes bytes and returns all packets that they complete.

The scan is a function of the phase and the waiting bytes alone, and counters and events are read
off the bytes that it dropped.
-/

namespace ControlNode.Frame

/-- How far the decoder is into a frame. -/
inductive Phase where
  | seekSync
  | awaitLength
  | awaitPacket (length : Nat)
deriving DecidableEq, Repr

/-- A stretch of bytes that belongs to no packet. -/
inductive Drop where
  | noise (count : Nat)
  | emptyFrame
deriving DecidableEq, Repr

def Drop.event : Drop → Log.Event
  | .noise count =>
    ⟨.trace, "dropping bytes outside of a frame", [("count", .number count)]⟩
  | .emptyFrame => ⟨.trace, "dropping zero-length frame", []⟩

/-- What a scan found: the packet, if one is complete, the phase and the bytes it stopped at, and
what it dropped on the way. -/
structure Scan where
  packet? : Option Packet
  phase : Phase
  rest : List UInt8
  drops : List Drop

/-- The scan with one more byte of noise before it. -/
def Scan.consNoise (s : Scan) : Scan :=
  match s.drops with
  | .noise count :: drops => { s with drops := .noise (count + 1) :: drops }
  | drops => { s with drops := .noise 1 :: drops }

/-- The scan with an empty frame before it. -/
def Scan.consEmptyFrame (s : Scan) : Scan :=
  { s with drops := .emptyFrame :: s.drops }

/-- Reads the bytes from the given phase up to the end of the first frame that has a packet. -/
def scan : Phase → List UInt8 → Scan
  | .awaitPacket length, bytes =>
    if length ≤ bytes.length then ⟨some (bytes.take length), .seekSync, bytes.drop length, []⟩
    else ⟨none, .awaitPacket length, bytes, []⟩
  | phase, [] => ⟨none, phase, [], []⟩
  | .seekSync, b :: bytes =>
    if b = sync then scan .awaitLength bytes else (scan .seekSync bytes).consNoise
  | .awaitLength, b :: bytes =>
    if b = 0 then (scan .seekSync bytes).consEmptyFrame else scan (.awaitPacket b.toNat) bytes

/-- Counts of what a decoder has found. -/
structure Tally where
  frames : Nat := 0
  discardedBytes : Nat := 0
  zeroLength : Nat := 0
deriving DecidableEq, Repr

def Tally.addDrop (t : Tally) : Drop → Tally
  | .noise count => { t with discardedBytes := t.discardedBytes + count }
  | .emptyFrame => { t with zeroLength := t.zeroLength + 1 }

def Tally.addScan (t : Tally) (s : Scan) : Tally :=
  let t := s.drops.foldl Tally.addDrop t
  if s.packet?.isSome then { t with frames := t.frames + 1 } else t

structure Decoder where
  phase : Phase := .seekSync
  buffer : List UInt8 := []
  tally : Tally := {}
deriving DecidableEq, Repr

namespace Decoder

/-- Adds bytes without reading them yet. -/
def push (d : Decoder) (bytes : List UInt8) : Decoder :=
  { d with buffer := d.buffer ++ bytes }

/-- Takes the next packet from the pushed bytes, if they complete one. -/
def next (d : Decoder) : Logged (Option Packet × Decoder) :=
  let s := scan d.phase d.buffer
  ⟨(s.packet?, ⟨s.phase, s.rest, d.tally.addScan s⟩), s.drops.map Drop.event⟩

/-- Forgets a frame that has begun and all bytes not yet read; the counts stay. -/
def reset (d : Decoder) : Decoder :=
  { d with phase := .seekSync, buffer := [] }

/-- Whether no frame has begun and no byte waits. -/
def isIdle (d : Decoder) : Bool :=
  d.phase == .seekSync && d.buffer.isEmpty

/-- The bytes that wait, and one for a frame that has begun. It bounds the packets to come. -/
def weight (d : Decoder) : Nat :=
  d.buffer.length + if d.phase = .seekSync then 0 else 1

end Decoder

@[simp] theorem Scan.packet?_consNoise (s : Scan) : s.consNoise.packet? = s.packet? := by
  unfold Scan.consNoise; split <;> rfl

@[simp] theorem Scan.phase_consNoise (s : Scan) : s.consNoise.phase = s.phase := by
  unfold Scan.consNoise; split <;> rfl

@[simp] theorem Scan.rest_consNoise (s : Scan) : s.consNoise.rest = s.rest := by
  unfold Scan.consNoise; split <;> rfl

/-- A scan that finds a packet stops before a new frame, and it has used a byte or ended a frame
that had begun. -/
theorem scan_of_packet? {phase : Phase} {bytes : List UInt8} {p : Packet}
    (h : (scan phase bytes).packet? = some p) :
    (scan phase bytes).phase = .seekSync ∧
      (scan phase bytes).rest.length <
        bytes.length + if phase = .seekSync then 0 else 1 := by
  fun_induction scan phase bytes with
  | case1 length bytes hle =>
    simp only [reduceCtorEq, if_false, List.length_drop, true_and]
    omega
  | case2 length bytes hle => simp at h
  | case3 phase hphase => simp at h
  | case4 bytes ih =>
    have := ih h
    simp only [reduceCtorEq, if_false, if_true, List.length_cons] at this ⊢
    exact ⟨this.1, by omega⟩
  | case5 b bytes hb ih =>
    have := ih (by simpa using h)
    simp only [if_true, Scan.phase_consNoise, Scan.rest_consNoise, List.length_cons] at this ⊢
    exact ⟨this.1, by omega⟩
  | case6 bytes ih =>
    have := ih (by simpa [Scan.consEmptyFrame] using h)
    simp only [reduceCtorEq, if_false, if_true, Scan.consEmptyFrame, List.length_cons] at this ⊢
    exact ⟨this.1, by omega⟩
  | case7 b bytes hb ih =>
    have := ih h
    simp only [reduceCtorEq, if_false, List.length_cons] at this ⊢
    exact ⟨this.1, by omega⟩

namespace Decoder

/-- Every packet taken makes the decoder lighter. -/
theorem weight_next_lt {d d' : Decoder} {p : Packet} (h : d.next.value = (some p, d')) :
    d'.weight < d.weight := by
  simp only [next, Prod.mk.injEq] at h
  obtain ⟨hp, rfl⟩ := h
  obtain ⟨hphase, hrest⟩ := scan_of_packet? hp
  simpa [weight, hphase] using hrest

/-- Takes all packets that the pushed bytes complete, in order. -/
def drain (d : Decoder) : Logged (List Packet × Decoder) :=
  match _ : d.next.value with
  | (none, d') => ⟨([], d'), d.next.log⟩
  | (some p, d') =>
    let later := drain d'
    ⟨(p :: later.value.1, later.value.2), d.next.log ++ later.log⟩
termination_by d.weight
decreasing_by exact weight_next_lt ‹_›

/-- Pushes bytes and takes all packets that they complete, in order. -/
def feed (d : Decoder) (bytes : List UInt8) : Logged (List Packet × Decoder) :=
  (d.push bytes).drain

def feedAll (d : Decoder) : List (List UInt8) → Logged (List Packet × Decoder)
  | [] => pure ([], d)
  | piece :: pieces => do
    let (packets, d) ← d.feed piece
    let (later, d) ← feedAll d pieces
    return (packets ++ later, d)

end Decoder

end ControlNode.Frame
