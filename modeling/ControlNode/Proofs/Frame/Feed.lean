import ControlNode.Frame.Decoder
import Mathlib.Algebra.Group.Nat.Defs
import Mathlib.Algebra.BigOperators.Group.List.Basic

/-!
# Feeding a decoder in pieces

A decoder that was fed some bytes and then some more is in the state that all these bytes together
lead to, and it has returned the same packets (`Decoder.feed_append`). What a scan does with bytes
that arrive later is settled once, in `scan_append_of_packet?` and `scan_append_of_none`; the rest
follows without looking into the scan again.

The counts of a decoder only ever grow by what it scans, so tallies are added.
-/

namespace ControlNode.Frame

/-! ### Tallies -/

attribute [ext] Tally

instance : Zero Tally := ⟨{}⟩

instance : Add Tally where
  add t u :=
    ⟨t.frames + u.frames, t.discardedBytes + u.discardedBytes, t.zeroLength + u.zeroLength⟩

namespace Tally

@[simp] lemma frames_add (t u : Tally) : (t + u).frames = t.frames + u.frames := rfl

@[simp] lemma discardedBytes_add (t u : Tally) :
    (t + u).discardedBytes = t.discardedBytes + u.discardedBytes := rfl

@[simp] lemma zeroLength_add (t u : Tally) :
    (t + u).zeroLength = t.zeroLength + u.zeroLength := rfl

end Tally

instance : AddCommMonoid Tally where
  add_assoc t u v := by ext <;> exact Nat.add_assoc ..
  zero_add t := by ext <;> exact Nat.zero_add _
  add_zero t := rfl
  add_comm t u := by ext <;> exact Nat.add_comm ..
  nsmul := nsmulRec

/-- What a dropped stretch adds to a tally. -/
def Drop.tally : Drop → Tally
  | .noise count => { discardedBytes := count }
  | .emptyFrame => { zeroLength := 1 }

/-- What a scan adds to a tally. -/
def Scan.tally (s : Scan) : Tally :=
  (s.drops.map Drop.tally).sum + { frames := if s.packet?.isSome then 1 else 0 }

lemma Tally.addDrop_eq (t : Tally) (drop : Drop) : t.addDrop drop = t + drop.tally := by
  cases drop <;> rfl

lemma Tally.foldl_addDrop (t : Tally) (drops : List Drop) :
    drops.foldl Tally.addDrop t = t + (drops.map Drop.tally).sum := by
  induction drops generalizing t with
  | nil => rfl
  | cons drop drops ih =>
    rw [List.foldl_cons, ih, addDrop_eq, List.map_cons, List.sum_cons, add_assoc]

lemma Tally.addScan_eq (t : Tally) (s : Scan) : t.addScan s = t + s.tally := by
  rw [Tally.addScan, Scan.tally, foldl_addDrop, ← add_assoc]
  cases s.packet? <;> rfl

@[simp] lemma Scan.tally_consNoise (s : Scan) :
    s.consNoise.tally = { discardedBytes := 1 } + s.tally := by
  unfold Scan.consNoise Scan.tally
  split
  · next count drops h =>
    simp only [h, List.map_cons, List.sum_cons, Drop.tally]
    ext <;> simp only [Tally.frames_add, Tally.discardedBytes_add, Tally.zeroLength_add] <;> omega
  · simp only [List.map_cons, List.sum_cons, Drop.tally, add_assoc]

@[simp] lemma Scan.tally_consEmptyFrame (s : Scan) :
    s.consEmptyFrame.tally = { zeroLength := 1 } + s.tally := by
  simp only [Scan.consEmptyFrame, Scan.tally, List.map_cons, List.sum_cons, Drop.tally, add_assoc]
  rfl

/-! ### Scanning byte by byte -/

lemma scan_seekSync_sync (bytes : List UInt8) :
    scan .seekSync (sync :: bytes) = scan .awaitLength bytes := by rw [scan, if_pos rfl]

lemma scan_seekSync_noise {b : UInt8} (hb : b ≠ sync) (bytes : List UInt8) :
    scan .seekSync (b :: bytes) = (scan .seekSync bytes).consNoise := by rw [scan, if_neg hb]

lemma scan_awaitLength_zero (bytes : List UInt8) :
    scan .awaitLength (0 :: bytes) = (scan .seekSync bytes).consEmptyFrame := by
  rw [scan, if_pos rfl]

lemma scan_awaitLength_cons {b : UInt8} (hb : b ≠ 0) (bytes : List UInt8) :
    scan .awaitLength (b :: bytes) = scan (.awaitPacket b.toNat) bytes := by
  conv_lhs => rw [scan, if_neg hb]

lemma scan_awaitPacket_of_le {length : Nat} {bytes : List UInt8} (h : length ≤ bytes.length) :
    scan (.awaitPacket length) bytes =
      ⟨some (bytes.take length), .seekSync, bytes.drop length, []⟩ := by rw [scan, if_pos h]

lemma scan_awaitPacket_of_lt {length : Nat} {bytes : List UInt8} (h : bytes.length < length) :
    scan (.awaitPacket length) bytes = ⟨none, .awaitPacket length, bytes, []⟩ := by
  rw [scan, if_neg (Nat.not_le.2 h)]

/-! ### Scanning bytes that arrive later -/

/-- Bytes that wait behind a scan, and were not read by it. -/
def Scan.push (s : Scan) (more : List UInt8) : Scan := { s with rest := s.rest ++ more }

@[simp] lemma Scan.packet?_push (s : Scan) (more : List UInt8) :
    (s.push more).packet? = s.packet? := rfl

@[simp] lemma Scan.phase_push (s : Scan) (more : List UInt8) : (s.push more).phase = s.phase := rfl

@[simp] lemma Scan.rest_push (s : Scan) (more : List UInt8) :
    (s.push more).rest = s.rest ++ more := rfl

@[simp] lemma Scan.tally_push (s : Scan) (more : List UInt8) : (s.push more).tally = s.tally := rfl

lemma Scan.push_consNoise (s : Scan) (more : List UInt8) :
    (s.push more).consNoise = s.consNoise.push more := by
  unfold Scan.consNoise Scan.push
  cases s.drops with
  | nil => rfl
  | cons drop drops => cases drop <;> rfl

/-- A scan that found a packet leaves later bytes alone. -/
lemma scan_append_of_packet? {phase : Phase} {bytes : List UInt8} {p : Packet}
    (h : (scan phase bytes).packet? = some p) (more : List UInt8) :
    scan phase (bytes ++ more) = (scan phase bytes).push more := by
  fun_induction scan phase bytes with
  | case1 length bytes hle =>
    have hle' : length ≤ (bytes ++ more).length := by rw [List.length_append]; omega
    rw [scan_awaitPacket_of_le hle', List.take_append_of_le_length hle,
      List.drop_append_of_le_length hle]
    rfl
  | case2 length bytes hle => cases h
  | case3 phase hphase => cases h
  | case4 bytes ih => rw [List.cons_append, scan_seekSync_sync, ih h]
  | case5 b bytes hb ih =>
    rw [Scan.packet?_consNoise] at h
    rw [List.cons_append, scan_seekSync_noise hb, ih h, Scan.push_consNoise]
  | case6 bytes ih =>
    rw [List.cons_append, scan_awaitLength_zero, ih h]
    rfl
  | case7 b bytes hb ih =>
    rw [List.cons_append, scan_awaitLength_cons hb]
    exact ih h

/-- A scan that found no packet can be continued with later bytes where it stopped. -/
lemma scan_append_of_none {phase : Phase} {bytes : List UInt8}
    (h : (scan phase bytes).packet? = none) (more : List UInt8) :
    let s := scan phase bytes
    let later := scan s.phase (s.rest ++ more)
    let whole := scan phase (bytes ++ more)
    whole.packet? = later.packet? ∧ whole.phase = later.phase ∧ whole.rest = later.rest ∧
      whole.tally = s.tally + later.tally := by
  fun_induction scan phase bytes with
  | case1 length bytes hle => cases h
  | case2 length bytes hle => exact ⟨rfl, rfl, rfl, (zero_add _).symm⟩
  | case3 phase hphase => exact ⟨rfl, rfl, rfl, (zero_add _).symm⟩
  | case4 bytes ih =>
    rw [List.cons_append, scan_seekSync_sync]
    exact ih h
  | case5 b bytes hb ih =>
    rw [Scan.packet?_consNoise] at h
    rw [List.cons_append, scan_seekSync_noise hb]
    obtain ⟨hpacket, hphase, hrest, htally⟩ := ih h
    refine ⟨by simpa using hpacket, by simpa using hphase, by simpa using hrest, ?_⟩
    simp only [Scan.tally_consNoise, Scan.phase_consNoise, Scan.rest_consNoise]
    rw [htally, add_assoc]
  | case6 bytes ih =>
    rw [List.cons_append, scan_awaitLength_zero]
    obtain ⟨hpacket, hphase, hrest, htally⟩ := ih h
    refine ⟨hpacket, hphase, hrest, ?_⟩
    rw [Scan.tally_consEmptyFrame, Scan.tally_consEmptyFrame, htally, add_assoc]
    rfl
  | case7 b bytes hb ih =>
    rw [List.cons_append, scan_awaitLength_cons hb]
    exact ih h

/-- A scan that found no packet finds nothing more where it stopped. -/
lemma scan_of_none {phase : Phase} {bytes : List UInt8}
    (h : (scan phase bytes).packet? = none) :
    scan (scan phase bytes).phase (scan phase bytes).rest =
      ⟨none, (scan phase bytes).phase, (scan phase bytes).rest, []⟩ := by
  fun_induction scan phase bytes with
  | case1 length bytes hle => cases h
  | case2 length bytes hle => exact scan_awaitPacket_of_lt (Nat.not_le.1 hle)
  | case3 phase hphase =>
    cases phase with
    | seekSync => rfl
    | awaitLength => rfl
    | awaitPacket length => exact absurd rfl (hphase length)
  | case4 bytes ih => exact ih h
  | case5 b bytes hb ih =>
    rw [Scan.packet?_consNoise] at h
    rw [Scan.phase_consNoise, Scan.rest_consNoise]
    exact ih h
  | case6 bytes ih => exact ih h
  | case7 b bytes hb ih => exact ih h

/-! ### One packet -/

namespace Decoder

lemma value_next (d : Decoder) :
    d.next.value =
      let s := scan d.phase d.buffer
      (s.packet?, ⟨s.phase, s.rest, d.tally + s.tally⟩) := by
  rw [next, Tally.addScan_eq]

/-- A packet that is complete is taken as if no further bytes had arrived. -/
lemma next_push_of_some {d d' : Decoder} {p : Packet} (h : d.next.value = (some p, d'))
    (more : List UInt8) : (d.push more).next.value = (some p, d'.push more) := by
  rw [value_next, Prod.mk.injEq] at h
  obtain ⟨hp, rfl⟩ := h
  rw [value_next]
  simp only [push, scan_append_of_packet? hp, Scan.packet?_push, hp, Scan.phase_push,
    Scan.rest_push, Scan.tally_push]

/-- Reading bytes that complete no packet, and reading on when more have arrived, is reading them
together. -/
lemma next_push_of_none {d d' : Decoder} (h : d.next.value = (none, d')) (more : List UInt8) :
    (d.push more).next.value = (d'.push more).next.value := by
  rw [value_next, Prod.mk.injEq] at h
  obtain ⟨hp, rfl⟩ := h
  obtain ⟨hpacket, hphase, hrest, htally⟩ := scan_append_of_none hp more
  rw [value_next, value_next]
  simp only [push, hpacket, hphase, hrest, htally, add_assoc]

/-- A decoder that has used all bytes that it can. -/
def IsDrained (d : Decoder) : Prop := d.next.value = (none, d)

instance (d : Decoder) : Decidable d.IsDrained := inferInstanceAs (Decidable (_ = _))

lemma isDrained_of_next {d d' : Decoder} (h : d.next.value = (none, d')) : d'.IsDrained := by
  rw [value_next, Prod.mk.injEq] at h
  obtain ⟨hp, rfl⟩ := h
  rw [IsDrained, value_next]
  simp only [scan_of_none hp]
  rfl

/-! ### All packets -/

lemma drain_of_none {d d' : Decoder} (h : d.next.value = (none, d')) :
    d.drain.value = ([], d') := by
  rw [drain]
  split <;> simp_all

lemma drain_of_some {d d' : Decoder} {p : Packet} (h : d.next.value = (some p, d')) :
    d.drain.value = (p :: d'.drain.value.1, d'.drain.value.2) := by
  rw [drain]
  split <;> simp_all

lemma drain_of_isDrained {d : Decoder} (h : d.IsDrained) : d.drain.value = ([], d) :=
  drain_of_none h

/-- What a drain returns is settled by the first packet and the state after it. -/
lemma drain_congr {d e : Decoder} (h : d.next.value = e.next.value) :
    d.drain.value = e.drain.value := by
  match he : e.next.value with
  | (none, e') => rw [drain_of_none he, drain_of_none (h.trans he)]
  | (some p, e') => rw [drain_of_some he, drain_of_some (h.trans he)]

/-- Draining before more bytes arrive changes neither the packets nor the end. -/
theorem drain_push (d : Decoder) (more : List UInt8) :
    (d.push more).drain.value =
      (d.drain.value.1 ++ (d.drain.value.2.push more).drain.value.1,
        (d.drain.value.2.push more).drain.value.2) := by
  match h : d.next.value with
  | (none, d') =>
    rw [drain_of_none h, drain_congr (next_push_of_none h more)]
    rfl
  | (some p, d') =>
    have ih := drain_push d' more
    rw [drain_of_some h, drain_of_some (next_push_of_some h more), ih]
    rfl
termination_by d.weight
decreasing_by exact weight_next_lt h

lemma isDrained_drain (d : Decoder) : d.drain.value.2.IsDrained := by
  match h : d.next.value with
  | (none, d') =>
    rw [drain_of_none h]
    exact isDrained_of_next h
  | (some p, d') =>
    rw [drain_of_some h]
    exact isDrained_drain d'
termination_by d.weight
decreasing_by exact weight_next_lt h

/-- The weight of a decoder bounds the packets to come. -/
lemma length_drain_le (d : Decoder) : d.drain.value.1.length ≤ d.weight := by
  match h : d.next.value with
  | (none, d') =>
    rw [drain_of_none h]
    exact Nat.zero_le _
  | (some p, d') =>
    rw [drain_of_some h]
    exact Nat.lt_of_le_of_lt (length_drain_le d') (weight_next_lt h)
termination_by d.weight
decreasing_by exact weight_next_lt h

/-! ### Feeding -/

lemma push_append (d : Decoder) (bytes more : List UInt8) :
    d.push (bytes ++ more) = (d.push bytes).push more := by
  rw [push, push, push, List.append_assoc]

lemma isDrained_feed (d : Decoder) (bytes : List UInt8) : (d.feed bytes).value.2.IsDrained :=
  isDrained_drain _

lemma feed_nil {d : Decoder} (h : d.IsDrained) : (d.feed []).value = ([], d) := by
  rw [feed, push, List.append_nil, drain_of_isDrained h]

/-- Bytes that are fed in two pieces. -/
theorem feed_append (d : Decoder) (bytes more : List UInt8) :
    (d.feed (bytes ++ more)).value =
      ((d.feed bytes).value.1 ++ ((d.feed bytes).value.2.feed more).value.1,
        ((d.feed bytes).value.2.feed more).value.2) := by
  rw [feed, push_append, drain_push]
  rfl

/-- Bytes that are fed in any number of pieces. -/
theorem feedAll_eq_feed {d : Decoder} (h : d.IsDrained) (pieces : List (List UInt8)) :
    (d.feedAll pieces).value = (d.feed pieces.flatten).value := by
  induction pieces generalizing d with
  | nil => rw [List.flatten_nil, feed_nil h, feedAll, Logged.value_pure]
  | cons piece pieces ih =>
    rw [List.flatten_cons, feed_append, ← ih (isDrained_feed d piece)]
    rfl

end Decoder

end ControlNode.Frame
