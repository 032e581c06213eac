import ControlNode.Frame.Wire
import Mathlib.Logic.Function.Basic
import Mathlib.Tactic.SplitIfs

/-!
# The grammar of a byte stream

A packet of 1 to 255 bytes has a frame, and no other packet has one (`encode_eq_ok_iff`). A stream
of bytes is noise, then complete frames with noise after each, and at its end possibly a frame that
is not complete. `Splitting` is such a reading of a stream. Every stream has one, and only one
(`Splitting.bytes_eq_iff`): `Splitting.ofBytes` finds it.
-/

namespace ControlNode.Frame

/-! ### Packets with a frame -/

/-- Exactly the packets of 1 to 255 bytes have a frame. -/
lemma encode_eq_ok_iff {p : Packet} {wire : List UInt8} :
    encode p = .ok wire ↔
      (1 ≤ p.length ∧ p.length ≤ 255) ∧ wire = sync :: UInt8.ofNat p.length :: p := by
  constructor
  · intro h
    rw [encode] at h
    split_ifs at h with hlong hnil
    have hlength : 1 ≤ p.length := List.length_pos_iff.2 hnil
    exact ⟨⟨hlength, Nat.not_lt.1 hlong⟩, (Except.ok.inj h).symm⟩
  · rintro ⟨⟨h₁, h₂⟩, rfl⟩
    exact encode_of_length h₁ h₂

lemma exists_encode_eq_error {p : Packet} (h : ¬ (1 ≤ p.length ∧ p.length ≤ 255)) :
    ∃ e, encode p = .error e := by
  cases he : encode p with
  | error e => exact ⟨e, rfl⟩
  | ok wire => exact absurd (encode_eq_ok_iff.1 he).1 h

/-! ### The parts of a stream -/

/-- Bytes among which no frame begins. -/
abbrev Noise := { bytes : List UInt8 // sync ∉ bytes }

/-- A complete frame: after the marker a length byte, and as many bytes as it says. -/
structure Segment where
  length : UInt8
  body : List UInt8
  length_body : body.length = length.toNat

namespace Segment

/-- The bytes of a complete frame. -/
def bytes (u : Segment) : List UInt8 := sync :: u.length :: u.body

/-- The packet of a complete frame, if it does not announce zero bytes. -/
def packet? (u : Segment) : Option Packet := if u.length = 0 then none else some u.body

end Segment

/-- What there is of a frame that is not complete: nothing, the marker, or the marker, a length
byte and fewer bytes than it says. -/
inductive Remainder where
  | nothing
  | marker
  | short (length : UInt8) (body : List UInt8) (h : body.length < length.toNat)

/-- The bytes of a frame that is not complete. -/
def Remainder.bytes : Remainder → List UInt8
  | .nothing => []
  | .marker => [sync]
  | .short length body _ => sync :: length :: body

/-- A stream as noise, complete frames with noise after each, and a frame that is not complete. -/
@[ext]
structure Splitting where
  noise : Noise
  frames : List (Segment × Noise)
  rest : Remainder

namespace Splitting

/-- The stream that is split. -/
def bytes (x : Splitting) : List UInt8 :=
  x.noise.val ++ (x.frames.flatMap fun frame => frame.1.bytes ++ frame.2.val) ++ x.rest.bytes

/-- The packets of the complete frames. -/
def packets (x : Splitting) : List Packet := x.frames.filterMap fun frame => frame.1.packet?

/-- The splitting of a stream that holds no noise and no complete frame. -/
def ofRemainder (r : Remainder) : Splitting := ⟨⟨[], List.not_mem_nil⟩, [], r⟩

/-- The splitting with more noise before it. -/
def appendNoise (g : Noise) (x : Splitting) : Splitting :=
  { x with noise := ⟨g.val ++ x.noise.val, List.not_mem_append g.property x.noise.property⟩ }

/-- The splitting with a complete frame before it. -/
def consSegment (u : Segment) (x : Splitting) : Splitting :=
  ⟨⟨[], List.not_mem_nil⟩, (u, x.noise) :: x.frames, x.rest⟩

@[simp] lemma bytes_ofRemainder (r : Remainder) : (ofRemainder r).bytes = r.bytes := rfl

@[simp] lemma bytes_appendNoise (g : Noise) (x : Splitting) :
    (x.appendNoise g).bytes = g.val ++ x.bytes := by
  simp [bytes, appendNoise]

@[simp] lemma bytes_consSegment (u : Segment) (x : Splitting) :
    (x.consSegment u).bytes = u.bytes ++ x.bytes := by
  simp [bytes, consSegment]

/-- Every splitting is built from a frame that is not complete by adding noise and complete
frames before it. -/
@[elab_as_elim]
theorem buildInduction {motive : Splitting → Prop} (rest : ∀ r, motive (ofRemainder r))
    (noise : ∀ g x, motive x → motive (appendNoise g x))
    (segment : ∀ u x, motive x → motive (consSegment u x)) (x : Splitting) : motive x := by
  obtain ⟨g, frames, r⟩ := x
  induction frames generalizing g with
  | nil =>
    have h := noise g (ofRemainder r) (rest r)
    simpa [appendNoise, ofRemainder] using h
  | cons frame frames ih =>
    have h := noise g _ (segment frame.1 _ (ih frame.2))
    simpa [appendNoise, consSegment] using h

/-! ### Splitting a stream -/

/-- The splitting of a stream. -/
def ofBytes : List UInt8 → Splitting
  | [] => ofRemainder .nothing
  | b :: bytes =>
    if hb : b = sync then
      match bytes with
      | [] => ofRemainder .marker
      | length :: bytes =>
        if h : length.toNat ≤ bytes.length then
          consSegment ⟨length, bytes.take length.toNat, List.length_take_of_le h⟩
            (ofBytes (bytes.drop length.toNat))
        else ofRemainder (.short length bytes (Nat.not_le.1 h))
    else appendNoise ⟨[b], by simpa using Ne.symm hb⟩ (ofBytes bytes)
termination_by bytes => bytes.length
decreasing_by
  · simp only [List.length_drop, List.length_cons]; omega
  · simp

theorem bytes_ofBytes (bytes : List UInt8) : (ofBytes bytes).bytes = bytes := by
  fun_induction ofBytes bytes with
  | case1 => rfl
  | case2 => rfl
  | case3 length bytes h ih =>
    rw [bytes_consSegment, ih, Segment.bytes, List.cons_append, List.cons_append,
      List.take_append_drop]
  | case4 length bytes h => rfl
  | case5 b bytes hb ih => rw [bytes_appendNoise, ih]; rfl

lemma ofBytes_noise_append (g : Noise) (bytes : List UInt8) :
    ofBytes (g.val ++ bytes) = appendNoise g (ofBytes bytes) := by
  obtain ⟨g, hg⟩ := g
  induction g with
  | nil => rfl
  | cons b g ih =>
    obtain ⟨hb, hg'⟩ := not_or.1 (mt List.mem_cons.2 hg)
    rw [List.cons_append, ofBytes.eq_def]
    simp only [dif_neg (Ne.symm hb), ih hg']
    rfl

lemma ofBytes_segment_append (u : Segment) (bytes : List UInt8) :
    ofBytes (u.bytes ++ bytes) = consSegment u (ofBytes bytes) := by
  obtain ⟨length, body, hbody⟩ := u
  have hle : length.toNat ≤ (body ++ bytes).length := by
    rw [List.length_append]; omega
  rw [Segment.bytes, List.cons_append, List.cons_append, ofBytes, dif_pos rfl]
  simp only [dif_pos hle, List.take_left' hbody, List.drop_left' hbody]

lemma ofBytes_remainder (r : Remainder) : ofBytes r.bytes = ofRemainder r := by
  cases r with
  | nothing => rw [Remainder.bytes, ofBytes]
  | marker => rw [Remainder.bytes, ofBytes, dif_pos rfl]
  | short length body h =>
    rw [Remainder.bytes, ofBytes, dif_pos rfl]
    simp only [dif_neg (Nat.not_le.2 h)]

theorem ofBytes_bytes (x : Splitting) : ofBytes x.bytes = x := by
  induction x using buildInduction with
  | rest r => rw [bytes_ofRemainder, ofBytes_remainder]
  | noise g x ih => rw [bytes_appendNoise, ofBytes_noise_append, ih]
  | segment u x ih => rw [bytes_consSegment, ofBytes_segment_append, ih]

/-- A stream is split in exactly one way. -/
theorem bytes_eq_iff (x : Splitting) (bytes : List UInt8) :
    x.bytes = bytes ↔ x = ofBytes bytes := by
  constructor
  · rintro rfl
    rw [ofBytes_bytes]
  · rintro rfl
    rw [bytes_ofBytes]

end Splitting

end ControlNode.Frame
