import ControlNode.Proofs.Frame.Feed
import ControlNode.Proofs.Frame.Grammar
import Mathlib.Data.List.Forall2

/-!
# What a decoder accepts

A decoder that waits for a frame returns the packets of the splitting of a stream, and keeps of the
stream the frame at its end that is not complete (`feed_bytes`). As a stream is split in one way
only, this says for every stream what a new decoder makes of it
(`existsUnique_splitting_feed`).
-/

namespace ControlNode.Frame

/-! ### What the parts of a stream leave behind -/

namespace Remainder

/-- The phase of a decoder that has read a frame which is not complete. -/
def phase : Remainder → Phase
  | .nothing => .seekSync
  | .marker => .awaitLength
  | .short length _ _ => .awaitPacket length.toNat

/-- The bytes that then wait for the end of the frame. -/
def waiting : Remainder → List UInt8
  | .nothing => []
  | .marker => []
  | .short _ body _ => body

/-- The decoder that has read a frame which is not complete, and counted `t` before it. -/
def decoder (r : Remainder) (t : Tally) : Decoder := ⟨r.phase, r.waiting, t⟩

lemma isIdle_decoder_iff (r : Remainder) (t : Tally) :
    (r.decoder t).isIdle = true ↔ r.bytes = [] := by
  cases r <;> simp [decoder, Decoder.isIdle, phase, waiting, bytes]

end Remainder

/-- What a complete frame adds to a tally. -/
def Segment.tally (u : Segment) : Tally :=
  if u.length = 0 then { zeroLength := 1 } else { frames := 1 }

namespace Splitting

/-- The counts of a stream: its packets, the bytes of its noise and the frames without a packet. -/
def tally (x : Splitting) : Tally where
  frames := x.packets.length
  discardedBytes := x.noise.val.length + (x.frames.flatMap fun frame => frame.2.val).length
  zeroLength := x.frames.countP fun frame => frame.1.length = 0

@[simp] lemma packets_consSegment (u : Segment) (x : Splitting) :
    (consSegment u x).packets = u.packet?.toList ++ x.packets := by
  rw [packets, consSegment, List.filterMap_cons]
  cases h : u.packet? <;> rfl

@[simp] lemma tally_appendNoise (g : Noise) (x : Splitting) :
    (appendNoise g x).tally = { discardedBytes := g.val.length } + x.tally := by
  ext
  · exact (Nat.zero_add _).symm
  · simp only [tally, appendNoise, List.length_append, Tally.discardedBytes_add, Nat.add_assoc]
  · exact (Nat.zero_add _).symm

@[simp] lemma tally_consSegment (u : Segment) (x : Splitting) :
    (consSegment u x).tally = u.tally + x.tally := by
  by_cases hu : u.length = 0
  · ext <;> simp [tally, consSegment, packets, Segment.packet?, Segment.tally, hu, Nat.add_comm]
  · ext <;> simp [tally, consSegment, packets, Segment.packet?, Segment.tally, hu, Nat.add_comm]

end Splitting

/-! ### Feeding one part -/

/-- A scan between frames drops noise and stops where it ends. -/
lemma scan_noise (g : Noise) :
    let s := scan .seekSync g.val
    s.packet? = none ∧ s.phase = .seekSync ∧ s.rest = [] ∧
      s.tally = { discardedBytes := g.val.length } := by
  obtain ⟨g, hg⟩ := g
  induction g with
  | nil => exact ⟨rfl, rfl, rfl, rfl⟩
  | cons b g ih =>
    obtain ⟨hb, hg'⟩ := not_or.1 (mt List.mem_cons.2 hg)
    obtain ⟨hpacket, hphase, hrest, htally⟩ := ih hg'
    simp only [scan_seekSync_noise (Ne.symm hb)]
    refine ⟨by simpa using hpacket, by simpa using hphase, by simpa using hrest, ?_⟩
    rw [Scan.tally_consNoise, htally]
    ext <;> simp [Nat.add_comm]

/-- The frames of packets, one for each. -/
abbrev AreFrames (frames : List (List UInt8)) (ps : List Packet) : Prop :=
  List.Forall₂ (fun frame p => encode p = .ok frame) frames ps

namespace Decoder

lemma isDrained_remainder (r : Remainder) (t : Tally) : (r.decoder t).IsDrained := by
  cases r with
  | nothing => rfl
  | marker => rfl
  | short length body h =>
    rw [IsDrained, value_next]
    simp only [Remainder.decoder, Remainder.phase, Remainder.waiting, scan_awaitPacket_of_lt h]
    rfl

lemma feed_noise (t : Tally) (g : Noise) :
    (({ tally := t } : Decoder).feed g.val).value =
      ([], { tally := t + { discardedBytes := g.val.length } }) := by
  obtain ⟨hpacket, hphase, hrest, htally⟩ := scan_noise g
  apply drain_of_none
  rw [value_next]
  simp only [push, List.nil_append, hpacket, hphase, hrest, htally]

lemma feed_segment (t : Tally) (u : Segment) :
    (({ tally := t } : Decoder).feed u.bytes).value =
      (u.packet?.toList, { tally := t + u.tally }) := by
  obtain ⟨length, body, hbody⟩ := u
  by_cases hlength : length = 0
  · subst hlength
    have hnil : body = [] := List.eq_nil_of_length_eq_zero hbody
    subst hnil
    apply drain_of_none
    rfl
  · have hscan : scan .seekSync (sync :: length :: body) = ⟨some body, .seekSync, [], []⟩ := by
      rw [scan_seekSync_sync, scan_awaitLength_cons hlength,
        scan_awaitPacket_of_le (Nat.le_of_eq hbody.symm),
        List.take_of_length_le (Nat.le_of_eq hbody), List.drop_of_length_le (Nat.le_of_eq hbody)]
    have hnext : ((({ tally := t } : Decoder).push (sync :: length :: body)).next).value =
        (some body, { tally := t + { frames := 1 } }) := by
      rw [value_next]
      simp only [push, List.nil_append, hscan]
      rfl
    have hdrained : ({ tally := t + { frames := 1 } } : Decoder).IsDrained :=
      isDrained_remainder .nothing _
    rw [feed, Segment.bytes, drain_of_some hnext, drain_of_isDrained hdrained, Segment.packet?,
      Segment.tally, if_neg hlength, if_neg hlength]
    rfl

/-- The frame of a packet is decoded to the packet. -/
lemma feed_frame (t : Tally) {p : Packet} {frame : List UInt8} (h : encode p = .ok frame) :
    (({ tally := t } : Decoder).feed frame).value =
      ([p], { tally := t + { frames := 1 } }) := by
  obtain ⟨⟨hpos, hle⟩, rfl⟩ := encode_eq_ok_iff.1 h
  have htoNat : (UInt8.ofNat p.length).toNat = p.length := by
    rw [UInt8.toNat_ofNat']
    omega
  have hlength : UInt8.ofNat p.length ≠ 0 := by
    intro hzero
    rw [hzero, UInt8.toNat_zero] at htoNat
    omega
  have hfeed := feed_segment t ⟨UInt8.ofNat p.length, p, htoNat.symm⟩
  rw [Segment.packet?, Segment.tally, if_neg hlength, if_neg hlength] at hfeed
  exact hfeed

/-- The frames of packets are decoded to the packets, and nothing is dropped. -/
lemma feed_frames (t : Tally) {frames : List (List UInt8)} {ps : List Packet}
    (h : AreFrames frames ps) :
    (({ tally := t } : Decoder).feed frames.flatten).value =
      (ps, { tally := t + { frames := ps.length } }) := by
  induction h generalizing t with
  | nil => exact feed_nil (isDrained_remainder .nothing t)
  | @cons frame p frames ps hp _ ih =>
    have hcount : ({ frames := 1 } : Tally) + { frames := ps.length } =
        { frames := (p :: ps).length } := by
      ext
      · exact Nat.add_comm 1 _
      · rfl
      · rfl
    rw [List.flatten_cons, feed_append, feed_frame t hp, ih, add_assoc, hcount]
    rfl

lemma eq_of_isIdle {d : Decoder} (h : d.isIdle = true) : d = { tally := d.tally } := by
  obtain ⟨phase, buffer, tally⟩ := d
  simp only [isIdle, Bool.and_eq_true, beq_iff_eq, List.isEmpty_iff] at h
  obtain ⟨rfl, rfl⟩ := h
  rfl

lemma feed_remainder (t : Tally) (r : Remainder) :
    (({ tally := t } : Decoder).feed r.bytes).value = ([], r.decoder t) := by
  apply drain_of_none
  rw [value_next]
  cases r with
  | nothing => rfl
  | marker => rfl
  | short length body h =>
    have hlength : length ≠ 0 := by
      rintro rfl
      exact absurd h (Nat.not_lt_zero _)
    have hscan : scan .seekSync (sync :: length :: body) =
        ⟨none, .awaitPacket length.toNat, body, []⟩ := by
      rw [scan_seekSync_sync, scan_awaitLength_cons hlength, scan_awaitPacket_of_lt h]
    simp only [push, Remainder.bytes, List.nil_append, hscan]
    rfl

/-! ### Feeding a stream -/

/-- A decoder that waits for a frame returns the packets of a stream and keeps the frame at its
end that is not complete. -/
theorem feed_bytes (t : Tally) (x : Splitting) :
    (({ tally := t } : Decoder).feed x.bytes).value =
      (x.packets, x.rest.decoder (t + x.tally)) := by
  induction x using Splitting.buildInduction generalizing t with
  | rest r => rw [Splitting.bytes_ofRemainder, feed_remainder]; rfl
  | noise g x ih =>
    rw [Splitting.bytes_appendNoise, feed_append, feed_noise, ih, Splitting.tally_appendNoise,
      add_assoc]
    rfl
  | segment u x ih =>
    rw [Splitting.bytes_consSegment, feed_append, feed_segment, ih,
      Splitting.packets_consSegment, Splitting.tally_consSegment, add_assoc]
    rfl

end Decoder

/-- Every stream is noise, complete frames with noise after each, and a frame that is not complete,
in exactly one way. A new decoder returns the packets of these frames, in their order and nothing
else, counts what it has read, and keeps of the stream exactly the frame that is not complete. -/
theorem existsUnique_splitting_feed (bytes : List UInt8) :
    ∃ x : Splitting, (∀ y : Splitting, y.bytes = bytes ↔ y = x) ∧
      (({} : Decoder).feed bytes).value.1 = x.packets ∧
      (({} : Decoder).feed bytes).value.2 =
        { phase := x.rest.phase, buffer := x.rest.waiting, tally := x.tally } ∧
      ((({} : Decoder).feed bytes).value.2.isIdle = true ↔ x.rest.bytes = []) := by
  have hfeed : (({} : Decoder).feed bytes).value =
      ((Splitting.ofBytes bytes).packets,
        (Splitting.ofBytes bytes).rest.decoder (Splitting.ofBytes bytes).tally) := by
    have h := Decoder.feed_bytes 0 (Splitting.ofBytes bytes)
    rwa [Splitting.bytes_ofBytes, zero_add] at h
  refine ⟨Splitting.ofBytes bytes, fun y => y.bytes_eq_iff bytes, ?_, ?_, ?_⟩
  · rw [hfeed]
  · rw [hfeed]
    rfl
  · rw [hfeed]
    exact Remainder.isIdle_decoder_iff _ _

end ControlNode.Frame
