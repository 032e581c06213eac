import ControlNode.Measure.Decode
import Mathlib.Tactic.SplitIfs

/-!
# Which measurement packets are accepted

A field that is read takes a fixed number of bytes: it fails only if fewer are left
(`Cursor.Takes`), and so do fields that are read one after the other. Hence the length of a packet,
which is checked before its samples are read, decides whether they can be read: exactly the packets
of the announced length are accepted, and their samples use up all bytes
(`decodeConsumption_eq_iff_verdict`).
-/

namespace ControlNode

/-! ### Packets of a layout -/

namespace Layout

/-- A packet of a layout: its tag, a setup, and the bytes of as many samples as it announces. -/
def IsPacket (l : Layout) (count : UInt8) (p : Packet) : Prop :=
  ∃ config body, p = 0xFF :: config :: count :: body ∧ body.length = count.toNat * l.sampleLength

/-- The samples of two layouts are equally long if they hold equally many values. -/
lemma sampleLength_eq_iff {l l' : Layout} :
    l.sampleLength = l'.sampleLength ↔ l.quantities.length = l'.quantities.length := by
  rw [sampleLength, sampleLength]
  omega

end Layout

namespace Measure

/-! ### Fields of a fixed width -/

namespace Cursor

variable {α β : Type}

/-- A field takes `n` bytes: it cannot be read if fewer are left, and otherwise it leaves those that
follow them. -/
structure Takes (field : Cursor α) (n : Nat) : Prop where
  of_lt (bytes : List UInt8) : bytes.length < n → field.run bytes = none
  of_le (bytes : List UInt8) : n ≤ bytes.length → ∃ a, field.run bytes = some (a, bytes.drop n)

lemma takes_pure (a : α) : (pure a : Cursor α).Takes 0 :=
  ⟨fun _ h => absurd h (Nat.not_lt_zero _), fun _ _ => ⟨a, rfl⟩⟩

/-- Fields that are read one after the other take the bytes of both. -/
lemma Takes.bind {field : Cursor α} {later : α → Cursor β} {n m : Nat} (h : field.Takes n)
    (hlater : ∀ a, (later a).Takes m) : (field >>= later).Takes (n + m) := by
  constructor
  · intro bytes hlt
    rw [StateT.run_bind]
    rcases Nat.lt_or_ge bytes.length n with hn | hn
    · rw [h.of_lt bytes hn]
      rfl
    · obtain ⟨a, ha⟩ := h.of_le bytes hn
      have hrest : (bytes.drop n).length < m := by
        rw [List.length_drop]
        omega
      rw [ha]
      exact (hlater a).of_lt _ hrest
  · intro bytes hle
    obtain ⟨a, ha⟩ := h.of_le bytes (Nat.le_of_add_right_le hle)
    have hrest : m ≤ (bytes.drop n).length := by
      rw [List.length_drop]
      omega
    obtain ⟨b, hb⟩ := (hlater a).of_le _ hrest
    refine ⟨b, ?_⟩
    rw [StateT.run_bind, ha, ← List.drop_drop]
    exact hb

/-- What is made of a field takes the bytes of the field. -/
lemma Takes.bind_pure {field : Cursor α} {n : Nat} (h : field.Takes n) (f : α → β) :
    (field >>= fun a => pure (f a)).Takes n :=
  h.bind fun a => takes_pure (f a)

/-- A field that is made of the next four bytes takes four bytes. -/
lemma takes_four {field : Cursor α} {f : UInt8 → UInt8 → UInt8 → UInt8 → α}
    (h : ∀ bytes, field.run bytes =
      match bytes with
      | a :: b :: c :: d :: rest => some (f a b c d, rest)
      | _ => none) : field.Takes 4 := by
  constructor
  · intro bytes hlt
    rw [h]
    match bytes with
    | [] | [_] | [_, _] | [_, _, _] => rfl
    | _ :: _ :: _ :: _ :: rest =>
      simp only [List.length_cons] at hlt
      omega
  · intro bytes hle
    rw [h]
    match bytes with
    | [] | [_] | [_, _] | [_, _, _] => simp at hle
    | a :: b :: c :: d :: rest => exact ⟨f a b c d, rfl⟩

lemma takes_bigEndian : bigEndian.Takes 4 := takes_four fun _ => rfl

lemma takes_littleEndian : littleEndian.Takes 4 := takes_four fun _ => rfl

lemma takes_byte : byte.Takes 1 := by
  constructor
  · intro bytes h
    rw [List.length_eq_zero_iff.1 (Nat.lt_one_iff.1 h)]
    rfl
  · intro bytes h
    obtain ⟨b, rest, rfl⟩ := List.exists_cons_of_length_pos h
    exact ⟨b, rfl⟩

lemma takes_times {field : Cursor α} {n : Nat} (h : field.Takes n) (count : Nat) :
    (field.times count).Takes (count * n) := by
  induction count with
  | zero =>
    rw [Nat.zero_mul]
    exact takes_pure []
  | succ count ih =>
    rw [Nat.succ_mul, Nat.add_comm (count * n)]
    exact h.bind fun a => ih.bind_pure (a :: ·)

lemma takes_each {field : α → Cursor β} {n : Nat} (h : ∀ a, (field a).Takes n) (l : List α) :
    (each field l).Takes (n * l.length) := by
  induction l with
  | nil => exact takes_pure []
  | cons a l ih =>
    rw [List.length_cons, Nat.mul_succ, Nat.add_comm (n * l.length)]
    exact (h a).bind fun b => ih.bind_pure (b :: ·)

/-- As many fields are read as are asked for. -/
lemma length_of_times {field : Cursor α} {count : Nat} {bytes rest : List UInt8} {l : List α}
    (h : (field.times count).run bytes = some (l, rest)) : l.length = count := by
  induction count generalizing bytes l with
  | zero =>
    cases h
    rfl
  | succ count ih =>
    rw [times, StateT.run_bind, Option.bind_eq_bind, Option.bind_eq_some_iff] at h
    obtain ⟨⟨a, bytes'⟩, -, h⟩ := h
    rw [StateT.run_bind, Option.bind_eq_bind, Option.bind_eq_some_iff] at h
    obtain ⟨⟨l', rest'⟩, hlater, h⟩ := h
    cases h
    rw [List.length_cons, ih hlater]

/-- Fields that take exactly the bytes that there are use all of them up. -/
lemma exists_times {field : Cursor α} {n : Nat} (h : field.Takes n) {count : Nat}
    {bytes : List UInt8} (hbytes : bytes.length = count * n) :
    ∃ l, (field.times count).run bytes = some (l, []) ∧ l.length = count := by
  obtain ⟨l, hl⟩ := (takes_times h count).of_le bytes (Nat.le_of_eq hbytes.symm)
  rw [List.drop_of_length_le (Nat.le_of_eq hbytes)] at hl
  exact ⟨l, hl, length_of_times hl⟩

end Cursor

/-! ### Consumption packets -/

/-- A sample takes the bytes of its layout. -/
lemma takes_readConsumptionSample (l : Layout) (reference : Float) :
    (readConsumptionSample l.quantities reference).Takes l.sampleLength := by
  have hvalue (q : Quantity) : (readValue q).Takes 4 :=
    Cursor.takes_bigEndian.bind_pure fun bits => (q, Single.mk bits)
  exact Cursor.takes_bigEndian.bind fun _ => (Cursor.takes_each hvalue l.quantities).bind_pure _

/-- What decoding a consumption packet comes to: the first check that fails, or as many samples as
the packet announces. A packet is checked for its header, its tag, a layout, the length of its body
and a time reference, in this order; the body must have the bytes of the samples it announces. -/
inductive ConsumptionVerdict : Option Layout → Option Float → Packet →
    Except DecodeError ConsumptionRecord → Prop
  | truncated {layout : Option Layout} {reference : Option Float} {p : Packet}
      (h : p.length < 3) : ConsumptionVerdict layout reference p (.error (.truncated p.length))
  | unexpectedTag {layout : Option Layout} {reference : Option Float} {tag config count : UInt8}
      {body : List UInt8} (h : tag ≠ 0xFF) :
      ConsumptionVerdict layout reference (tag :: config :: count :: body)
        (.error (.unexpectedTag tag))
  | notConfigured {reference : Option Float} {config count : UInt8} {body : List UInt8} :
      ConsumptionVerdict none reference (0xFF :: config :: count :: body) (.error .notConfigured)
  | lengthMismatch {l : Layout} {reference : Option Float} {config count : UInt8}
      {body : List UInt8} (h : body.length ≠ count.toNat * l.sampleLength) :
      ConsumptionVerdict (some l) reference (0xFF :: config :: count :: body)
        (.error (.lengthMismatch (3 + body.length) (3 + count.toNat * l.sampleLength)))
  | noTimeReference {l : Layout} {config count : UInt8} {body : List UInt8}
      (h : body.length = count.toNat * l.sampleLength) :
      ConsumptionVerdict (some l) none (0xFF :: config :: count :: body) (.error .noTimeReference)
  /-- No sample is cut short, and no byte is left when all of them are read. -/
  | decoded {l : Layout} {reference : Float} {config count : UInt8} {body : List UInt8}
      {samples : List ConsumptionSample} (h : body.length = count.toNat * l.sampleLength)
      (hread : ((readConsumptionSample l.quantities reference).times count.toNat).run body =
        some (samples, []))
      (hcount : samples.length = count.toNat) :
      ConsumptionVerdict (some l) (some reference) (0xFF :: config :: count :: body)
        (.ok { rail := l.rail, samples })

/-- What is told of a packet that came to the result: only of one that was decoded, and only if the
setup that it names is not the one of the layout. -/
def setupWarnings (layout : Option Layout) (p : Packet) :
    Except DecodeError ConsumptionRecord → List Log.Event
  | .error _ => []
  | .ok _ =>
    match layout, p with
    | some l, _ :: config :: _ =>
      if config = l.configByte then [] else [configMismatch config l.configByte]
    | _, _ => []

section

variable {layout : Option Layout} {reference : Option Float} {p : Packet}
  {result : Except DecodeError ConsumptionRecord}

/-- Decoding comes to its verdict, and a decoded packet is told of if it names another setup. -/
lemma ConsumptionVerdict.eq (h : ConsumptionVerdict layout reference p result) :
    decodeConsumption layout reference p = ⟨result, setupWarnings layout p result⟩ := by
  have hlength (tag config count : UInt8) (body : List UInt8) :
      (tag :: config :: count :: body).length = 3 + body.length :=
    Nat.add_comm body.length 3
  rw [decodeConsumption.eq_def]
  cases h with
  | truncated h =>
    match p with
    | [] | [_] | [_, _] => rfl
    | _ :: _ :: _ :: body =>
      rw [hlength] at h
      omega
  | unexpectedTag h => exact if_pos h
  | notConfigured => rfl
  | lengthMismatch h =>
    simp only [consumptionTag, consumptionHeader, hlength, ne_eq, Nat.add_left_cancel_iff,
      not_true_eq_false, if_false, h, not_false_eq_true, if_true]
    rfl
  | noTimeReference h =>
    simp only [consumptionTag, consumptionHeader, hlength, ne_eq, h, not_true_eq_false, if_false]
    rfl
  | decoded h hread hcount =>
    simp only [consumptionTag, consumptionHeader, hlength, ne_eq, h, not_true_eq_false, if_false,
      hread, setupWarnings]

lemma ConsumptionVerdict.value (h : ConsumptionVerdict layout reference p result) :
    (decodeConsumption layout reference p).value = result :=
  congrArg Logged.value h.eq

lemma exists_consumptionVerdict (layout : Option Layout) (reference : Option Float) (p : Packet) :
    ∃ result, ConsumptionVerdict layout reference p result := by
  match p with
  | [] | [_] | [_, _] => exact ⟨_, .truncated (by simp)⟩
  | tag :: config :: count :: body =>
    by_cases htag : tag = 0xFF
    · subst htag
      cases layout with
      | none => exact ⟨_, .notConfigured⟩
      | some l =>
        by_cases hlength : body.length = count.toNat * l.sampleLength
        · cases reference with
          | none => exact ⟨_, .noTimeReference hlength⟩
          | some reference =>
            obtain ⟨samples, hread, hcount⟩ :=
              Cursor.exists_times (takes_readConsumptionSample l reference) hlength
            exact ⟨_, .decoded hlength hread hcount⟩
        · exact ⟨_, .lengthMismatch hlength⟩
    · exact ⟨_, .unexpectedTag htag⟩

/-- Every packet comes to exactly one thing. -/
lemma value_decodeConsumption_eq_iff :
    (decodeConsumption layout reference p).value = result ↔
      ConsumptionVerdict layout reference p result := by
  constructor
  · intro h
    obtain ⟨result', h'⟩ := exists_consumptionVerdict layout reference p
    rwa [← h, h'.value]
  · exact ConsumptionVerdict.value

/-- The length of a packet of another layout is wrong exactly if that layout holds another number of
values. -/
lemma exists_lengthMismatch_iff {built used : Layout} {count : UInt8} (h : built.IsPacket count p)
    (hcount : count ≠ 0) :
    (∃ length expected, ConsumptionVerdict (some used) reference p
        (.error (.lengthMismatch length expected))) ↔
      built.quantities.length ≠ used.quantities.length := by
  obtain ⟨config, body, rfl, hbody⟩ := h
  rw [ne_eq, ← Layout.sampleLength_eq_iff]
  constructor
  · rintro ⟨length, expected, hverdict⟩ hsame
    cases hverdict with
    | lengthMismatch hlength => exact hlength (hsame ▸ hbody)
  · intro hdiffer
    refine ⟨_, _, .lengthMismatch fun hlength => hdiffer ?_⟩
    have hpos : 0 < count.toNat := by
      rw [Nat.pos_iff_ne_zero]
      exact fun hzero => hcount (UInt8.toNat_inj.1 hzero)
    exact Nat.eq_of_mul_eq_mul_left hpos (hbody.symm.trans hlength)

/-- Whatever the layout and the time reference are, a packet comes to exactly one thing: it is
truncated, or the first check that fails is reported, or as many samples as it announces are read,
the last of them up to the last byte. So a packet of one layout that has a sample and is decoded
with another layout is rejected for its length exactly if the layouts hold different numbers of
values. -/
theorem decodeConsumption_eq_iff_verdict :
    (∀ layout reference p result,
      (decodeConsumption layout reference p).value = result ↔
        ConsumptionVerdict layout reference p result) ∧
    ∀ (built used : Layout) (reference : Option Float) (count : UInt8) (p : Packet),
      built.IsPacket count p → count ≠ 0 →
      ((∃ length expected, (decodeConsumption (some used) reference p).value =
          .error (.lengthMismatch length expected)) ↔
        built.quantities.length ≠ used.quantities.length) := by
  refine ⟨fun layout reference p result => value_decodeConsumption_eq_iff, ?_⟩
  intro built used reference count p hp hcount
  simp only [value_decodeConsumption_eq_iff]
  exact exists_lengthMismatch_iff hp hcount

/-- A packet with one voltage is no packet of powers, voltages and currents. -/
theorem decodeConsumption_voltage_as_all :
    let p : Packet := [0xFF, 0x12, 1, 0, 0, 0x80, 0, 0x40, 0x53, 0x33, 0x33]
    (⟨0x12⟩ : Layout).IsPacket 1 p ∧
      ∃ length expected, (decodeConsumption (some ⟨0x17⟩) (some 1000) p).value =
        .error (.lengthMismatch length expected) := by
  have hp : (⟨0x12⟩ : Layout).IsPacket 1
      [0xFF, 0x12, 1, 0, 0, 0x80, 0, 0x40, 0x53, 0x33, 0x33] := ⟨0x12, _, rfl, by decide⟩
  refine ⟨hp, (decodeConsumption_eq_iff_verdict.2 _ ⟨0x17⟩ (some 1000) 1 _ hp ?_).2 ?_⟩ <;> decide

end

end Measure

end ControlNode
