import ControlNode.Proofs.Measure.Acceptance
import ControlNode.Proofs.Measure.RoundTrip

/-!
# Which radio packets are accepted

A radio packet holds the second of its start and samples of six bytes, most significant bytes last.
Its length is checked before any of them is read, so exactly the packets of the announced length are
accepted and all their bytes are used (`RadioVerdict`). These are the packets that can be written
for a start and at most 255 readings, and they are decoded to what was written
(`decodeRadio_eq_iff_verdict`).
-/

namespace ControlNode

namespace Measure

/-! ### Packets as they are written -/

/-- A number as four bytes, the most significant last. -/
def littleEndianBytes (w : UInt32) : List UInt8 :=
  [w.toUInt8, (w >>> 8).toUInt8, (w >>> 16).toUInt8, (w >>> 24).toUInt8]

@[simp] lemma length_littleEndianBytes (w : UInt32) : (littleEndianBytes w).length = 4 := rfl

/-- What is received on a channel so many microseconds after the start. -/
structure Reception where
  micros : UInt32
  channel : UInt8
  rssi : Int8

namespace Reception

/-- The bytes of a sample. -/
def bytes (m : Reception) : List UInt8 :=
  littleEndianBytes m.micros ++ [m.channel, m.rssi.toUInt8]

@[simp] lemma length_bytes (m : Reception) : m.bytes.length = 6 := rfl

/-- The sample that these bytes stand for in a packet with the given start. -/
def sampleFrom (start : UInt32) (m : Reception) : RadioSample where
  timestamp := start.toFloat + m.micros.toFloat / 1000000
  channel := m.channel
  rssi := m.rssi

end Reception

/-- The radio packet with the given samples. -/
def radioPacket (start : UInt32) (ms : List Reception) : Packet :=
  0xFE :: UInt8.ofNat ms.length :: (littleEndianBytes start ++ ms.flatMap Reception.bytes)

lemma length_radioPacket (start : UInt32) (ms : List Reception) :
    (radioPacket start ms).length = 6 + ms.length * 6 := by
  simp only [radioPacket, List.length_cons, List.length_append, length_littleEndianBytes,
    List.length_flatMap, Reception.length_bytes, List.map_const', List.sum_replicate_nat]
  omega

/-- Any four bytes are those of a number. -/
lemma bytes_word (a b c d : UInt8) : littleEndianBytes (Cursor.word d c b a) = [a, b, c, d] := by
  have ha := a.toNat_lt
  have hb := b.toNat_lt
  have hc := c.toNat_lt
  have hd := d.toNat_lt
  have h24 : (24 : UInt32).toNat % 32 = 24 := rfl
  have h16 : (16 : UInt32).toNat % 32 = 16 := rfl
  have h8 : (8 : UInt32).toNat % 32 = 8 := rfl
  simp only [littleEndianBytes, Cursor.word, List.cons.injEq, and_true, ← UInt8.toNat_inj,
    UInt32.toNat_toUInt8, UInt32.toNat_shiftRight, UInt32.toNat_ofNat', Nat.shiftRight_eq_div_pow,
    h24, h16, h8]
  omega

/-- Any six bytes for each sample are those of samples. -/
lemma exists_receptions {count : Nat} {bytes : List UInt8} (h : bytes.length = count * 6) :
    ∃ ms : List Reception, ms.length = count ∧ bytes = ms.flatMap Reception.bytes := by
  induction count generalizing bytes with
  | zero =>
    rw [Nat.zero_mul, List.length_eq_zero_iff] at h
    exact ⟨[], rfl, h⟩
  | succ count ih =>
    match bytes with
    | a :: b :: c :: d :: channel :: rssi :: rest =>
      have hrest : rest.length = count * 6 := by
        simp only [List.length_cons] at h
        omega
      obtain ⟨ms, hcount, hms⟩ := ih hrest
      refine ⟨⟨Cursor.word d c b a, channel, rssi.toInt8⟩ :: ms, ?_, ?_⟩
      · rw [List.length_cons, hcount]
      · rw [List.flatMap_cons, ← hms, Reception.bytes, bytes_word]
        rfl
    | [] | [_] | [_, _] | [_, _, _] | [_, _, _, _] | [_, _, _, _, _] =>
      simp only [List.length_cons, List.length_nil] at h
      omega

/-! ### Reading a packet -/

namespace Cursor

@[simp] lemma run_littleEndian (w : UInt32) (rest : List UInt8) :
    littleEndian.run (littleEndianBytes w ++ rest) = some (w, rest) := by
  show some (word _ _ _ _, rest) = _
  rw [word_bytes]

end Cursor

/-- A sample takes six bytes. -/
lemma takes_readRadioSample (start : Float) : (readRadioSample start).Takes 6 :=
  Cursor.takes_littleEndian.bind fun _ =>
    Cursor.takes_byte.bind fun _ => Cursor.takes_byte.bind_pure _

lemma run_readRadioSample (start : UInt32) (m : Reception) (rest : List UInt8) :
    (readRadioSample start.toFloat).run (m.bytes ++ rest) = some (m.sampleFrom start, rest) := by
  rw [Reception.bytes, List.append_assoc, readRadioSample, StateT.run_bind,
    Cursor.run_littleEndian]
  rfl

/-- The samples of a packet use up exactly the bytes that they take. -/
lemma exists_readRadioSamples {count : Nat} {body : List UInt8}
    (h : body.length = 4 + count * 6) :
    ∃ samples, (readRadioSamples count).run body = some (samples, []) ∧
      samples.length = count := by
  obtain ⟨start, hstart⟩ := Cursor.takes_littleEndian.of_le body (by omega)
  have hrest : (body.drop 4).length = count * 6 := by
    rw [List.length_drop]
    omega
  obtain ⟨samples, hsamples, hcount⟩ :=
    Cursor.exists_times (takes_readRadioSample start.toFloat) hrest
  refine ⟨samples, ?_, hcount⟩
  rw [readRadioSamples, StateT.run_bind, hstart]
  exact hsamples

lemma run_readRadioSamples (start : UInt32) (ms : List Reception) :
    (readRadioSamples ms.length).run (littleEndianBytes start ++ ms.flatMap Reception.bytes) =
      some (ms.map (Reception.sampleFrom start), []) := by
  have hread := Cursor.run_times (run_readRadioSample start) ms []
  rw [List.append_nil] at hread
  rw [readRadioSamples, StateT.run_bind, Cursor.run_littleEndian]
  exact hread

/-! ### Accepted packets -/

/-- What decoding a radio packet comes to: the first check that fails, or as many samples as the
packet announces. A packet is checked for its header, its tag, and its length, in this order. -/
inductive RadioVerdict : Packet → Except DecodeError RadioRecord → Prop
  | truncated {p : Packet} (h : p.length < 6) : RadioVerdict p (.error (.truncated p.length))
  | unexpectedTag {tag : UInt8} {body : List UInt8} (hheader : 6 ≤ (tag :: body).length)
      (h : tag ≠ 0xFE) : RadioVerdict (tag :: body) (.error (.unexpectedTag tag))
  | lengthMismatch {count : UInt8} {body : List UInt8}
      (hheader : 6 ≤ (0xFE :: count :: body).length)
      (h : (0xFE :: count :: body).length ≠ 6 + 6 * count.toNat) :
      RadioVerdict (0xFE :: count :: body)
        (.error (.lengthMismatch (0xFE :: count :: body).length (6 + 6 * count.toNat)))
  /-- No sample is cut short, and no byte is left when all of them are read. -/
  | decoded {count : UInt8} {body : List UInt8} {samples : List RadioSample}
      (h : (0xFE :: count :: body).length = 6 + 6 * count.toNat)
      (hread : (readRadioSamples count.toNat).run body = some (samples, []))
      (hcount : samples.length = count.toNat) :
      RadioVerdict (0xFE :: count :: body) (.ok { samples })

variable {p : Packet} {result : Except DecodeError RadioRecord}

lemma RadioVerdict.eq (h : RadioVerdict p result) : decodeRadio p = result := by
  rw [decodeRadio.eq_def, radioHeader, radioTag, radioSampleLength]
  cases h with
  | truncated h => exact if_pos h
  | @unexpectedTag tag body hheader h =>
    rw [if_neg (Nat.not_lt.2 hheader)]
    match body with
    | [] => simp at hheader
    | count :: body => exact if_pos h
  | lengthMismatch hheader h =>
    rw [Nat.mul_comm] at h ⊢
    rw [if_neg (Nat.not_lt.2 hheader)]
    exact if_pos h
  | @decoded count body samples h hread hcount =>
    rw [Nat.mul_comm] at h
    have hheader : ¬ (0xFE :: count :: body : Packet).length < 6 := by omega
    rw [if_neg hheader]
    simp only [h, hread, ne_eq, not_true_eq_false, if_false]

lemma exists_radioVerdict (p : Packet) : ∃ result, RadioVerdict p result := by
  rcases Nat.lt_or_ge p.length 6 with hheader | hheader
  · exact ⟨_, .truncated hheader⟩
  match p with
  | [] | [_] => simp at hheader
  | tag :: count :: body =>
    by_cases htag : tag = 0xFE
    · subst htag
      by_cases hlength : (0xFE :: count :: body : Packet).length = 6 + 6 * count.toNat
      · have hbody : body.length = 4 + count.toNat * 6 := by
          simp only [List.length_cons] at hlength
          omega
        obtain ⟨samples, hread, hcount⟩ := exists_readRadioSamples hbody
        exact ⟨_, .decoded hlength hread hcount⟩
      · exact ⟨_, .lengthMismatch hheader hlength⟩
    · exact ⟨_, .unexpectedTag hheader htag⟩

lemma decodeRadio_eq_iff : decodeRadio p = result ↔ RadioVerdict p result := by
  constructor
  · rintro rfl
    obtain ⟨result, h⟩ := exists_radioVerdict p
    rwa [h.eq]
  · exact RadioVerdict.eq

/-- A packet is decoded to the samples that were written into it. -/
lemma decodeRadio_packet (start : UInt32) {ms : List Reception} (h : ms.length ≤ 255) :
    decodeRadio (radioPacket start ms) = .ok { samples := ms.map (Reception.sampleFrom start) } := by
  have hcount : (UInt8.ofNat ms.length).toNat = ms.length := by
    rw [UInt8.toNat_ofNat']
    omega
  apply RadioVerdict.eq
  apply RadioVerdict.decoded
  · rw [← radioPacket, length_radioPacket, hcount, Nat.mul_comm]
  · rw [hcount]
    exact run_readRadioSamples start ms
  · rw [hcount, List.length_map]

/-- Every accepted packet is one that can be written. -/
lemma RadioVerdict.exists_packet {record : RadioRecord} (h : RadioVerdict p (.ok record)) :
    ∃ start ms, ms.length ≤ 255 ∧ p = radioPacket start ms := by
  cases h with
  | @decoded count body samples h hread hcount =>
    match body with
    | a :: b :: c :: d :: rest =>
      have hrest : rest.length = count.toNat * 6 := by
        simp only [List.length_cons] at h
        omega
      obtain ⟨ms, hms, rfl⟩ := exists_receptions hrest
      refine ⟨Cursor.word d c b a, ms, ?_, ?_⟩
      · rw [hms]
        exact Nat.le_of_lt_succ count.toNat_lt
      · rw [radioPacket, hms, UInt8.ofNat_toNat, bytes_word]
        rfl
    | [] | [_] | [_, _] | [_, _, _] =>
      simp only [List.length_cons, List.length_nil] at h
      omega

/-- A radio packet comes to exactly one thing: the first check that fails is reported, or as many
samples as it announces are read, the last of them up to the last byte. The packets that are
accepted are those that can be written for a start and at most 255 samples, and they are decoded to
these samples: each at its time after the start, with its channel and its signed strength. -/
theorem decodeRadio_eq_iff_verdict :
    (∀ p result, decodeRadio p = result ↔ RadioVerdict p result) ∧
    ∀ p record, decodeRadio p = .ok record ↔
      ∃ start ms, ms.length ≤ 255 ∧ p = radioPacket start ms ∧
        record = { samples := ms.map (Reception.sampleFrom start) } := by
  refine ⟨fun p result => decodeRadio_eq_iff, fun p record => ?_⟩
  constructor
  · intro h
    obtain ⟨start, ms, hlength, rfl⟩ := (decodeRadio_eq_iff.1 h).exists_packet
    rw [decodeRadio_packet start hlength] at h
    exact ⟨start, ms, hlength, rfl, (Except.ok.inj h).symm⟩
  · rintro ⟨start, ms, hlength, rfl, rfl⟩
    exact decodeRadio_packet start hlength

end Measure

end ControlNode
