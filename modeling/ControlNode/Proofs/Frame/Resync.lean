import ControlNode.Proofs.Frame.Acceptance
import ControlNode.Proofs.Frame.History

/-!
# Finding the frames again

A decoder that was given any bytes may be inside of a frame that nobody sent. Bytes that are no
marker end it: a length byte is at most 255, so 256 of them complete whatever has begun
(`Remainder.exists_segment`), and the decoder waits for a frame again (`Decoder.isIdle_after_noise`).
-/

namespace ControlNode.Frame

/-- The rest of a stretch of noise. -/
def Noise.drop (g : Noise) (n : Nat) : Noise :=
  ⟨g.val.drop n, fun hmem => g.property (List.mem_of_mem_drop hmem)⟩

/-- Noise behind a frame that has begun completes it, if there is enough noise for the longest
one. -/
lemma Remainder.exists_segment {r : Remainder} (hr : r ≠ .nothing) (g : Noise)
    (h : 256 ≤ g.val.length) :
    ∃ (u : Segment) (n : Nat), r.bytes ++ g.val = u.bytes ++ (g.drop n).val := by
  obtain ⟨g, hg⟩ := g
  cases r with
  | nothing => exact absurd rfl hr
  | marker =>
    obtain ⟨length, body, rfl⟩ := List.exists_cons_of_length_pos (Nat.lt_of_lt_of_le (by decide) h)
    have hbody : length.toNat ≤ body.length := by
      have hlt := length.toNat_lt
      simp only [List.length_cons] at h
      omega
    refine ⟨⟨length, body.take length.toNat, List.length_take_of_le hbody⟩, length.toNat + 1, ?_⟩
    simp only [bytes, Segment.bytes, Noise.drop, List.drop_succ_cons, List.cons_append,
      List.nil_append, List.take_append_drop]
  | short length body hshort =>
    have hlt := length.toNat_lt
    have hbody : (body ++ g.take (length.toNat - body.length)).length = length.toNat := by
      simp only [List.length_append, List.length_take] at h ⊢
      omega
    refine ⟨⟨length, _, hbody⟩, length.toNat - body.length, ?_⟩
    simp only [bytes, Segment.bytes, Noise.drop, List.cons_append, List.append_assoc,
      List.take_append_drop]

namespace Decoder

/-- A decoder in which no packet is complete has read a frame that is not complete. -/
lemma exists_remainder {d : Decoder} (hsound : d.phase.IsSound) (h : d.phase.Holds d.buffer) :
    ∃ r : Remainder, d = r.decoder d.tally := by
  obtain ⟨phase, buffer, tally⟩ := d
  cases phase with
  | seekSync =>
    obtain rfl : buffer = [] := h
    exact ⟨.nothing, rfl⟩
  | awaitLength =>
    obtain rfl : buffer = [] := h
    exact ⟨.marker, rfl⟩
  | awaitPacket n =>
    have hn : (UInt8.ofNat n).toNat = n := by
      rw [UInt8.toNat_ofNat']
      have hle : n ≤ 255 := hsound.2
      omega
    have hshort : buffer.length < (UInt8.ofNat n).toNat := by
      rw [hn]
      exact h
    refine ⟨.short (UInt8.ofNat n) buffer hshort, ?_⟩
    simp only [Remainder.decoder, Remainder.phase, Remainder.waiting, hn]

/-- Bytes behind a frame that is not complete are read together with it. -/
lemma feed_decoder (r : Remainder) (t : Tally) (more : List UInt8) :
    ((r.decoder t).feed more).value = (({ tally := t } : Decoder).feed (r.bytes ++ more)).value := by
  rw [feed_append, feed_remainder]
  rfl

/-- Enough noise leaves a decoder between frames, and completes one frame at most. -/
lemma feed_noise_of_remainder (r : Remainder) (t : Tally) (g : Noise) (h : 256 ≤ g.val.length) :
    ∃ packets t', packets.length ≤ 1 ∧
      ((r.decoder t).feed g.val).value = (packets, { tally := t' }) := by
  rw [feed_decoder]
  by_cases hr : r = .nothing
  · subst hr
    exact ⟨[], _, Nat.zero_le 1, feed_noise t g⟩
  · obtain ⟨u, n, heq⟩ := Remainder.exists_segment hr g h
    refine ⟨u.packet?.toList, t + u.tally + { discardedBytes := (g.drop n).val.length }, ?_, ?_⟩
    · cases u.packet? with
      | none => exact Nat.zero_le 1
      | some p => exact Nat.le_refl 1
    · rw [heq, feed_append, feed_segment, feed_noise, List.append_nil]

/-- Packets that were complete before the noise are returned before it has an effect. -/
lemma feed_noise_of_isSound {d : Decoder} (hsound : d.phase.IsSound) (g : Noise)
    (h : 256 ≤ g.val.length) :
    ∃ packets t, packets.length ≤ 1 ∧
      (d.feed g.val).value = (d.drain.value.1 ++ packets, { tally := t }) := by
  have hholds := holds_of_next (isDrained_drain d)
  obtain ⟨r, hr⟩ := exists_remainder (isSound_drain hsound) hholds
  obtain ⟨packets, t, hlength, hfeed⟩ := feed_noise_of_remainder r d.drain.value.2.tally g h
  rw [← hr] at hfeed
  refine ⟨packets, t, hlength, ?_⟩
  rw [feed, drain_push, ← feed, hfeed]

/-- A new decoder has been given any bytes, asked for packets and reset, in any order. Then it is
fed at least 256 bytes that are no markers. It waits for a frame now, and if no packet was complete
before, these bytes have completed one packet at most. From here on frames are returned exactly,
into whatever pieces they are cut. -/
theorem isIdle_after_noise (ops : List Op) (noise : List UInt8) (hlength : 256 ≤ noise.length)
    (hnoise : sync ∉ noise) :
    ((after ops).feed noise).value.2.isIdle = true ∧
    ((after ops).next.value.1 = none → ((after ops).feed noise).value.1.length ≤ 1) ∧
    ∀ frames packets pieces, AreFrames frames packets → pieces.flatten = frames.flatten →
      (((after ops).feed noise).value.2.feedAll pieces).value =
        (packets, { tally := ((after ops).feed noise).value.2.tally +
          { frames := packets.length } }) := by
  obtain ⟨packets, t, hpackets, hfeed⟩ :=
    feed_noise_of_isSound (isSound_after ops) ⟨noise, hnoise⟩ hlength
  rw [hfeed]
  refine ⟨rfl, fun hnone => ?_, fun frames ps pieces hframes hpieces => ?_⟩
  · rw [drain_of_none (Prod.ext hnone rfl)]
    exact hpackets
  · have hdrained : ({ tally := t } : Decoder).IsDrained := isDrained_remainder .nothing t
    have hall := feedAll_eq_feed hdrained pieces
    rwa [hpieces, feed_frames t hframes] at hall

/-- The first byte of the noise is taken for a length, and the others are as many as it says. -/
theorem isIdle_after_announced_noise :
    let noise : List UInt8 := List.replicate 256 0xFF
    let d := ((after [.push [0x80], .next]).feed noise).value
    256 ≤ noise.length ∧ sync ∉ noise ∧ d.2.isIdle = true ∧ d.1.length ≤ 1 ∧
      (d.2.feedAll [[0x80], [0x01, 0x72]]).value.1 = [[0x72]] := by
  have hlength : 256 ≤ (List.replicate 256 (0xFF : UInt8)).length :=
    Nat.le_of_eq List.length_replicate.symm
  have hnoise : sync ∉ List.replicate 256 (0xFF : UInt8) := by
    intro hmem
    cases List.eq_of_mem_replicate hmem
  have hframes : AreFrames [[0x80, 0x01, 0x72]] [[0x72]] := .cons rfl .nil
  obtain ⟨hidle, hone, hexact⟩ := isIdle_after_noise [.push [0x80], .next] _ hlength hnoise
  refine ⟨hlength, hnoise, hidle, hone rfl, ?_⟩
  rw [hexact _ _ [[0x80], [0x01, 0x72]] hframes rfl]

/-- One byte less is not enough. -/
example : ((after [.push [0x80], .next]).feed (List.replicate 255 0xFF)).value =
    ([], { phase := .awaitPacket 255, buffer := List.replicate 254 0xFF }) := by
  have hshort : (List.replicate 254 (0xFF : UInt8)).length < (0xFF : UInt8).toNat := by
    rw [List.length_replicate]
    decide
  exact (feed_decoder .marker 0 _).trans (feed_remainder 0 (.short 0xFF _ hshort))

end Decoder

end ControlNode.Frame
