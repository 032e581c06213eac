import ControlNode.Frame.Wire
import ControlNode.Proofs.Frame.History

/-!
# Where the bytes of a decoder go

Every byte that a decoder is given is noise, belongs to an empty frame or to the frame of a packet,
was dropped by a reset, or is still held: read as part of the header of a frame that has begun, or
waiting (`Decoder.accounts_of_run`). The balance is kept by what a scan does (`scan_balance`) and
adds up over the packets and the operations of a history (`Decoder.balance_run`).
-/

namespace ControlNode.Frame

namespace Phase

/-- The bytes of a header that have been read in a phase. -/
def headerRead : Phase → Nat
  | seekSync => 0
  | awaitLength => 1
  | awaitPacket _ => 2

@[simp] lemma headerRead_seekSync : headerRead seekSync = 0 := rfl

@[simp] lemma headerRead_awaitLength : headerRead awaitLength = 1 := rfl

@[simp] lemma headerRead_awaitPacket (n : Nat) : headerRead (awaitPacket n) = 2 := rfl

end Phase

/-- The bytes that were counted and belong to no packet: noise, and the headers of empty frames. -/
def Tally.bytes (t : Tally) : Nat := t.discardedBytes + 2 * t.zeroLength

@[simp] lemma Tally.bytes_add (t u : Tally) : (t + u).bytes = t.bytes + u.bytes := by
  rw [bytes, bytes, bytes, discardedBytes_add, zeroLength_add]
  omega

/-- The bytes that packets take on the wire: two more for each of them than it has. -/
def wireSizes : List Packet → Nat
  | [] => 0
  | p :: packets => wireSize p + wireSizes packets

@[simp] lemma wireSizes_nil : wireSizes [] = 0 := rfl

@[simp] lemma wireSizes_cons (p : Packet) (packets : List Packet) :
    wireSizes (p :: packets) = wireSize p + wireSizes packets := rfl

@[simp] lemma wireSizes_append (packets later : List Packet) :
    wireSizes (packets ++ later) = wireSizes packets + wireSizes later := by
  induction packets with
  | nil => exact (Nat.zero_add _).symm
  | cons p packets ih => rw [List.cons_append, wireSizes_cons, wireSizes_cons, ih, Nat.add_assoc]

lemma length_le_wireSizes (packets : List Packet) : packets.length ≤ wireSizes packets := by
  induction packets with
  | nil => exact Nat.le_refl _
  | cons p packets ih =>
    rw [List.length_cons, wireSizes_cons, wireSize, headerLength]
    omega

/-- A scan loses no byte. -/
lemma scan_balance (phase : Phase) (bytes : List UInt8) :
    let s := scan phase bytes
    phase.headerRead + bytes.length =
      s.tally.bytes + wireSizes s.packet?.toList + (s.phase.headerRead + s.rest.length) := by
  have hnoise : ({ discardedBytes := 1 } : Tally).bytes = 1 := rfl
  have hempty : ({ zeroLength := 1 } : Tally).bytes = 2 := rfl
  fun_induction scan phase bytes with
  | case1 length bytes hle =>
    have hbytes : (bytes.take length).length + (bytes.drop length).length = bytes.length := by
      rw [← List.length_append, List.take_append_drop]
    show 2 + _ = 0 + (2 + (bytes.take length).length) + (0 + (bytes.drop length).length)
    omega
  | case2 length bytes hle => exact (Nat.zero_add _).symm
  | case3 phase hphase => exact (Nat.zero_add _).symm
  | case4 bytes ih =>
    simp only [Phase.headerRead_seekSync, Phase.headerRead_awaitLength, List.length_cons] at ih ⊢
    omega
  | case5 b bytes hb ih =>
    simp only [Scan.tally_consNoise, Scan.packet?_consNoise, Scan.phase_consNoise,
      Scan.rest_consNoise, Tally.bytes_add, Phase.headerRead_seekSync, List.length_cons] at ih ⊢
    omega
  | case6 bytes ih =>
    simp only [Scan.tally_consEmptyFrame, Tally.bytes_add, Phase.headerRead_seekSync,
      Phase.headerRead_awaitLength, List.length_cons] at ih ⊢
    simp only [Scan.consEmptyFrame]
    omega
  | case7 b bytes hb ih =>
    simp only [Phase.headerRead_awaitLength, Phase.headerRead_awaitPacket,
      List.length_cons] at ih ⊢
    omega

/-- The frames that a scan counts are those whose packet it found. -/
lemma Scan.frames_tally (s : Scan) : s.tally.frames = s.packet?.toList.length := by
  have hdrops (drops : List Drop) : (drops.map Drop.tally).sum.frames = 0 := by
    induction drops with
    | nil => rfl
    | cons drop drops ih =>
      rw [List.map_cons, List.sum_cons, Tally.frames_add, ih]
      cases drop <;> rfl
  rw [tally, Tally.frames_add, hdrops, Nat.zero_add]
  cases s.packet? <;> rfl

namespace Decoder

/-- The bytes that a decoder holds: those of a header that it has read, and those that wait. -/
def held (d : Decoder) : Nat := d.phase.headerRead + d.buffer.length

/-- The bytes that the resets of a history drop: each of them all that the decoder then holds. -/
def dropped (d : Decoder) : List Op → Nat
  | [] => 0
  | .reset :: ops => d.held + d.reset.dropped ops
  | op :: ops => (d.perform op).value.2.dropped ops

/-- Between two moments a decoder was given `given` bytes, returned the packets and dropped
`dropped` bytes by resets. What it had and was given is what it has and gave away. -/
structure Balance (d : Decoder) (given : Nat) (packets : List Packet) (dropped : Nat)
    (d' : Decoder) : Prop where
  bytes : d.tally.bytes + d.held + given =
    d'.tally.bytes + wireSizes packets + dropped + d'.held
  frames : d'.tally.frames = d.tally.frames + packets.length

namespace Balance

variable {d d' d'' : Decoder} {given given' dropped dropped' : Nat} {packets later : List Packet}

lemma refl (d : Decoder) : Balance d 0 [] 0 d := ⟨rfl, rfl⟩

lemma trans (h : Balance d given packets dropped d')
    (h' : Balance d' given' later dropped' d'') :
    Balance d (given + given') (packets ++ later) (dropped + dropped') d'' := by
  constructor
  · have hbytes := h.bytes
    have hbytes' := h'.bytes
    rw [wireSizes_append]
    omega
  · rw [h'.frames, h.frames, List.length_append, Nat.add_assoc]

end Balance

variable {d d' : Decoder}

lemma balance_push (d : Decoder) (bytes : List UInt8) :
    Balance d bytes.length [] 0 (d.push bytes) := by
  constructor
  · simp only [push, held, List.length_append, wireSizes_nil]
    omega
  · rfl

lemma balance_next (d : Decoder) : Balance d 0 d.next.value.1.toList 0 d.next.value.2 := by
  have hscan := scan_balance d.phase d.buffer
  rw [value_next]
  constructor
  · simp only [held, Tally.bytes_add]
    omega
  · rw [Tally.frames_add, Scan.frames_tally]

lemma balance_drain (d : Decoder) : Balance d 0 d.drain.value.1 0 d.drain.value.2 := by
  apply drain_induction (P := fun d packets d' => Balance d 0 packets 0 d')
  · intro d d' h
    have hnext := balance_next d
    rwa [h] at hnext
  · intro d d' e p ps h ih
    have hnext := balance_next d
    rw [h] at hnext
    exact hnext.trans ih

lemma balance_reset (d : Decoder) : Balance d 0 [] d.held d.reset := by
  constructor
  · simp only [reset, held, Phase.headerRead_seekSync, List.length_nil, wireSizes_nil]
    omega
  · rfl

/-- The balance of any history. -/
theorem balance_run (d : Decoder) (ops : List Op) :
    Balance d (pushed ops).length (d.run ops).value.1.flatten (d.dropped ops)
      (d.run ops).value.2 := by
  induction ops generalizing d with
  | nil => exact .refl d
  | cons op ops ih =>
    rw [value_run_cons, pushed, List.flatMap_cons, List.length_append, List.flatten_cons]
    cases op with
    | push bytes =>
      have h := (balance_push d bytes).trans (ih (d.push bytes))
      rw [Nat.zero_add] at h
      exact h
    | next =>
      have h := (balance_next d).trans (ih d.next.value.2)
      rw [Nat.zero_add (d.next.value.2.dropped ops)] at h
      exact h
    | feed bytes =>
      have h := ((balance_push d bytes).trans (balance_drain (d.push bytes))).trans
        (ih (d.feed bytes).value.2)
      rw [Nat.add_zero, Nat.zero_add] at h
      exact h
    | reset => exact (balance_reset d).trans (ih d.reset)

/-! ### New decoders -/

/-- The packets that a history returns. -/
def returned (ops : List Op) : List Packet := (({} : Decoder).run ops).value.1.flatten

/-- What is promised of a new decoder and a history. -/
structure Accounts (ops : List Op) : Prop where
  /-- Every byte is counted, was returned in a packet's frame, was dropped, or is held. -/
  bytes : (pushed ops).length =
    (after ops).tally.discardedBytes + 2 * (after ops).tally.zeroLength +
      wireSizes (returned ops) + dropped {} ops +
      (after ops).phase.headerRead + (after ops).buffer.length
  frames : (after ops).tally.frames = (returned ops).length
  /-- No count exceeds the number of bytes. -/
  counts_le : (after ops).tally.frames ≤ (pushed ops).length ∧
    (after ops).tally.discardedBytes ≤ (pushed ops).length ∧
    (after ops).tally.zeroLength ≤ (pushed ops).length
  announced : ∀ n, (after ops).phase = .awaitPacket n → 1 ≤ n ∧ n ≤ 255
  /-- When a packet is asked for in vain, only bytes of a packet that is not complete wait. -/
  waiting : ∀ d, (after ops).next.value = (none, d) → d.phase.Holds d.buffer ∧ d.buffer.length ≤ 254
  reset_tally : (after ops).reset.tally = (after ops).tally
  /-- After a reset, a decoder answers and reports as a new one, and adds to its counts what a new
  one counts. -/
  reset_run : ∀ later,
    ((after ops).reset.run later).value.1 = (({} : Decoder).run later).value.1 ∧
    ((after ops).reset.run later).log = (({} : Decoder).run later).log ∧
    ((after ops).reset.run later).value.2 =
      { (after later) with tally := (after ops).tally + (after later).tally }

/-- Fewer bytes than announced wait for a packet, and a length byte announces 255 at most. -/
lemma length_le_of_holds {phase : Phase} (hsound : phase.IsSound) {bytes : List UInt8}
    (h : phase.Holds bytes) : bytes.length ≤ 254 := by
  cases phase with
  | awaitPacket n => exact Nat.le_of_lt_succ (Nat.lt_of_lt_of_le h hsound.2)
  | seekSync | awaitLength =>
    obtain rfl : bytes = [] := h
    exact Nat.zero_le _

/-- Whatever is done with a new decoder: pushing, feeding, taking packets and resetting in any
order. The bytes that it was given are those it has counted as noise, two for each empty frame, the
packets returned with two more for each, those dropped by resets, and those it holds. It has counted
the packets returned, and what waits after a packet was asked for in vain is less than what was
announced. A reset keeps the counts and takes part in nothing else that comes after it. -/
theorem accounts_of_run (ops : List Op) : Accounts ops := by
  obtain ⟨hbytes, hframes⟩ := balance_run {} ops
  have hgiven : (pushed ops).length =
      (after ops).tally.discardedBytes + 2 * (after ops).tally.zeroLength +
        wireSizes (returned ops) + dropped {} ops + (after ops).held := by
    rw [← Tally.bytes, returned, after, ← hbytes]
    exact (Nat.zero_add _).symm
  have hcounted : (after ops).tally.frames = (returned ops).length := by
    rw [after, hframes]
    exact Nat.zero_add _
  constructor
  case bytes =>
    rw [hgiven, held, ← Nat.add_assoc]
  case frames => exact hcounted
  case counts_le =>
    have hreturned := length_le_wireSizes (returned ops)
    omega
  case announced =>
    intro n hn
    have hsound := isSound_after ops
    rwa [hn] at hsound
  case waiting =>
    intro d hd
    have hsound := isSound_next (isSound_after ops)
    rw [hd] at hsound
    exact ⟨holds_of_next hd, length_le_of_holds hsound (holds_of_next hd)⟩
  case reset_tally => rfl
  case reset_run =>
    intro later
    obtain ⟨hvalue, hlog⟩ := counting_run (after ops).tally {} later
    rw [reset_eq_count, hvalue]
    exact ⟨rfl, hlog, rfl⟩

/-- A frame is torn by a reset: its header and the byte that waited are dropped. -/
example :
    let ops : List Op := [.push [0x44, 0x80, 0x04, 0x61], .next, .reset, .push [0x62, 0x80], .next]
    (pushed ops).length = 6 ∧ (after ops).tally.discardedBytes = 2 ∧ dropped {} ops = 3 ∧
      (after ops).phase = .awaitLength := by
  decide

end Decoder

end ControlNode.Frame
