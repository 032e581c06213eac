import ControlNode.Frame.Duplex
import ControlNode.Proofs.Frame.Acceptance

/-!
# Frames among noise

A line carries signals: noise bytes, empty frames, and the frames of packets, in any order. A
decoder that waits for a frame returns the packets of the signals and waits again, and its counts
say how many signals of each kind there were (`feed_wire`). Exactly the packets of 1 to 255 bytes
have a frame, so nothing that can be sent is lost between noise (`feedAll_signals`).
-/

namespace ControlNode.Frame

/-! ### Packets without a frame -/

variable {p : Packet}

lemma encode_eq_emptyPacket_iff : encode p = .error .emptyPacket ↔ p.length = 0 := by
  rw [encode, List.length_eq_zero_iff]
  split_ifs with hlong hnil
  · simp only [Except.error.injEq, reduceCtorEq, false_iff]
    rintro rfl
    exact absurd hlong (Nat.not_lt_zero _)
  · exact iff_of_true rfl hnil
  · exact iff_of_false id hnil

lemma encode_eq_packetTooLong_iff :
    encode p = .error (.packetTooLong p.length 255) ↔ 255 < p.length := by
  constructor
  · intro h
    rw [encode] at h
    split_ifs at h with hlong hnil
    · exact hlong
    · cases h
  · intro h
    have hlong : maxLength < p.length := h
    rw [encode, if_pos hlong]
    rfl

lemma length_of_encode_eq_error {e : Error} (h : encode p = .error e) :
    p.length = 0 ∨ 255 < p.length := by
  by_contra hlength
  rw [encode_of_length (by omega) (by rw [maxLength]; omega)] at h
  cases h

lemma length_frame {frame : List UInt8} (h : encode p = .ok frame) :
    frame.length = 2 + p.length := by
  obtain ⟨-, rfl⟩ := encode_eq_ok_iff.1 h
  simp only [List.length_cons]
  omega

/-! ### Frames in a buffer -/

namespace Duplex

variable (x : Duplex)

lemma encode_of_error {e : Error} (h : Frame.encode p = .error e) :
    x.encode p = (.error e, x) := by
  rw [encode, appendTo, h]
  rfl

lemma encode_of_ok {frame : List UInt8} (h : Frame.encode p = .ok frame) :
    x.encode p = (.ok (), { x with sink := x.sink ++ frame }) := by
  rw [encode, appendTo, h]
  rfl

end Duplex

/-! ### Signals -/

/-- What passes over a line: a byte at which no frame begins, a frame that announces no bytes, or
the frame of a packet. -/
inductive Signal where
  | noise (b : UInt8) (h : b ≠ sync)
  | emptyFrame
  | frame (p : Packet) (bytes : List UInt8) (h : encode p = .ok bytes)

namespace Signal

def bytes : Signal → List UInt8
  | noise b _ => [b]
  | emptyFrame => [sync, 0]
  | frame _ bytes _ => bytes

def packet? : Signal → Option Packet
  | frame p _ _ => some p
  | _ => none

def isNoise : Signal → Bool
  | noise _ _ => true
  | _ => false

def isEmptyFrame : Signal → Bool
  | emptyFrame => true
  | _ => false

/-- What a signal adds to a tally. -/
def tally : Signal → Tally
  | noise _ _ => { discardedBytes := 1 }
  | emptyFrame => { zeroLength := 1 }
  | frame _ _ _ => { frames := 1 }

end Signal

/-- The bytes of signals, one after the other. -/
def wire (signals : List Signal) : List UInt8 := signals.flatMap Signal.bytes

/-- The packets of signals, in their order. -/
def packets (signals : List Signal) : List Packet := signals.filterMap Signal.packet?

/-- How many signals there are of each kind. -/
def census (signals : List Signal) : Tally where
  frames := (packets signals).length
  discardedBytes := signals.countP Signal.isNoise
  zeroLength := signals.countP Signal.isEmptyFrame

@[simp] lemma wire_cons (s : Signal) (signals : List Signal) :
    wire (s :: signals) = s.bytes ++ wire signals := rfl

lemma packets_cons (s : Signal) (signals : List Signal) :
    packets (s :: signals) = s.packet?.toList ++ packets signals := by
  rw [packets, List.filterMap_cons]
  cases s <;> rfl

lemma census_cons (s : Signal) (signals : List Signal) :
    census (s :: signals) = s.tally + census signals := by
  ext
  · show (packets (s :: signals)).length = s.tally.frames + (packets signals).length
    rw [packets_cons, List.length_append]
    cases s <;> rfl
  · show List.countP Signal.isNoise (s :: signals) = s.tally.discardedBytes + _
    rw [List.countP_cons, Nat.add_comm]
    cases s <;> rfl
  · show List.countP Signal.isEmptyFrame (s :: signals) = s.tally.zeroLength + _
    rw [List.countP_cons, Nat.add_comm]
    cases s <;> rfl

namespace Decoder

/-- A single signal is read to its end. -/
lemma feed_signal (t : Tally) (s : Signal) :
    (({ tally := t } : Decoder).feed s.bytes).value =
      (s.packet?.toList, { tally := t + s.tally }) := by
  cases s with
  | noise b h =>
    have hnoise : sync ∉ [b] := by simpa using Ne.symm h
    exact feed_noise t ⟨[b], hnoise⟩
  | emptyFrame => exact feed_segment t ⟨0, [], rfl⟩
  | frame p bytes h => exact feed_frame t h

/-- Any number of signals is read to the end. -/
theorem feed_wire (t : Tally) (signals : List Signal) :
    (({ tally := t } : Decoder).feed (wire signals)).value =
      (packets signals, { tally := t + census signals }) := by
  induction signals generalizing t with
  | nil => exact feed_nil (isDrained_remainder .nothing t)
  | cons s signals ih =>
    rw [wire_cons, feed_append, feed_signal, ih, packets_cons, census_cons, add_assoc]

end Decoder

/-- A decoder that waits for a frame is fed signals, in any pieces: packets with noise bytes and
empty frames before, between and after their frames. It returns exactly these packets in their
order, waits for a frame again, and has counted the packets, the noise bytes and the empty frames.
Packets have a frame unless they are empty or longer than 255 bytes; then a buffer is left as it
was, and otherwise the frame is added to it, which is two bytes longer than the packet. -/
theorem feedAll_signals (d : Decoder) (hidle : d.isIdle = true) (signals : List Signal)
    (pieces : List (List UInt8)) (hpieces : pieces.flatten = wire signals) :
    (d.feedAll pieces).value =
      (packets signals,
        { d with
          tally := {
            frames := d.tally.frames + (packets signals).length
            discardedBytes := d.tally.discardedBytes + signals.countP Signal.isNoise
            zeroLength := d.tally.zeroLength + signals.countP Signal.isEmptyFrame } }) ∧
    (d.feedAll pieces).value.2.isIdle = true ∧
    (∀ p, (encode p = .error .emptyPacket ↔ p.length = 0) ∧
      (encode p = .error (.packetTooLong p.length 255) ↔ 255 < p.length) ∧
      ∀ e, encode p = .error e → p.length = 0 ∨ 255 < p.length) ∧
    (∀ (x : Duplex) p e, encode p = .error e → x.encode p = (.error e, x)) ∧
    (∀ (x : Duplex) p frame, encode p = .ok frame →
      x.encode p = (.ok (), { x with sink := x.sink ++ frame }) ∧ frame.length = 2 + p.length) := by
  have hdecoder : d = { tally := d.tally } := Decoder.eq_of_isIdle hidle
  have hdrained : d.IsDrained := by
    rw [hdecoder]
    exact Decoder.isDrained_remainder .nothing d.tally
  have hfeed : (d.feedAll pieces).value =
      (packets signals, { tally := d.tally + census signals }) := by
    rw [Decoder.feedAll_eq_feed hdrained, hpieces, hdecoder]
    exact Decoder.feed_wire d.tally signals
  refine ⟨?_, ?_, fun p => ?_, fun x p e h => x.encode_of_error h, fun x p frame h => ?_⟩
  · rw [hfeed, hdecoder]
    rfl
  · rw [hfeed]
    rfl
  · exact ⟨encode_eq_emptyPacket_iff, encode_eq_packetTooLong_iff,
      fun e => length_of_encode_eq_error⟩
  · exact ⟨x.encode_of_ok h, length_frame h⟩

/-- A packet whose length byte is the marker and all of whose bytes are markers. -/
def markers : Packet := List.replicate 128 sync

lemma encode_markers : encode markers = .ok (sync :: 0x80 :: markers) := by
  have hlength : markers.length = 128 := List.length_replicate
  refine encode_eq_ok_iff.2 ⟨by omega, ?_⟩
  rw [hlength]
  rfl

/-- Signals around this packet: noise, empty frames, and a packet of one byte right behind it. -/
def crowded : List Signal :=
  [.noise 0x44 (by decide), .emptyFrame, .frame markers (sync :: 0x80 :: markers) encode_markers,
    .frame [0x72] [sync, 0x01, 0x72] rfl, .emptyFrame, .noise 0x00 (by decide)]

/-- Their bytes, in pieces that tear the frames. -/
def crowdedPieces : List (List UInt8) :=
  [[0x44, 0x80], [], [0x00, 0x80], 0x80 :: markers ++ [0x80, 0x01], [0x72, 0x80, 0x00], [0x00]]

theorem feedAll_signals_crowded :
    ({} : Decoder).isIdle = true ∧ crowdedPieces.flatten = wire crowded ∧
      (({} : Decoder).feedAll crowdedPieces).value =
        ([markers, [0x72]],
          { tally := { frames := 2, discardedBytes := 2, zeroLength := 2 } }) := by
  have hpieces : crowdedPieces.flatten = wire crowded := rfl
  exact ⟨rfl, hpieces, (feedAll_signals {} rfl crowded _ hpieces).1⟩

end ControlNode.Frame
