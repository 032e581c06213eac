import ControlNode.Session.Decoding
import Mathlib.Tactic.SplitIfs

/-!
# What is known in a session

Two kinds of packets only change what is known in a session: the acknowledgement of a setup replaces
the layout (`Decoding.layout_decode`), and the acknowledgement of a reset of the clock moves the
time reference if a reset is pending. All other packets of the measurement queue leave it as it is
(`Decoding.decode_of_other`). Of the commands, a reset alone changes anything, and only what is
pending (`Decoding.afterCommand_reset`, `Decoding.afterCommand_of_ne`).
-/

namespace ControlNode

/-- The acknowledgement of a reset of the clock: its tag and that of the command, whatever
follows. -/
def Packet.IsResetAck (p : Packet) : Prop := ∃ rest, p = 0xFA :: 0x72 :: rest

/-- The flags byte that a packet acknowledges: its tag, that of the command and the flags byte,
whatever follows. -/
def Packet.ackedFlags? : Packet → Option UInt8
  | tag :: command :: flags :: _ => if tag = 0xFA ∧ command = 0x79 then some flags else none
  | _ => none

lemma Packet.ackedFlags?_eq_some_iff {p : Packet} {flags : UInt8} :
    p.ackedFlags? = some flags ↔ ∃ rest, p = 0xFA :: 0x79 :: flags :: rest := by
  constructor
  · intro h
    match p with
    | tag :: command :: b :: rest =>
      rw [ackedFlags?] at h
      split_ifs at h with hack
      obtain ⟨rfl, rfl⟩ := hack
      cases h
      exact ⟨rest, rfl⟩
    | [] | [_] | [_, _] => cases h
  · rintro ⟨rest, rfl⟩
    rfl

namespace Decoding

variable (d : Decoding) (clock : Float)

/-- What is known when the acknowledgement of a reset has arrived: the time of the pending reset is
the reference, and no reset is pending any more. -/
def confirm : Decoding :=
  match d.pending with
  | none => d
  | some time => { d with reference := some time, pending := none }

@[simp] lemma pending_confirm : d.confirm.pending = none := by
  cases h : d.pending <;> simp [confirm, h]

@[simp] lemma layout_confirm : d.confirm.layout = d.layout := by
  cases h : d.pending <;> simp [confirm, h]

lemma reference_confirm : d.confirm.reference = d.pending.or d.reference := by
  cases h : d.pending <;> simp [confirm, h]

lemma confirm_layout (layout : Option Layout) :
    { d with layout := layout }.confirm = { d.confirm with layout := layout } := by
  cases h : d.pending <;> simp [confirm, h]

lemma value_installReference : (d.installReference clock).value = d.confirm := by
  cases h : d.pending <;> simp [installReference, confirm, h]

/-! ### Commands -/

/-- What is known after a command that came to the result. -/
def afterCommand (c : Command) (result : Except CommandError Unit) : Decoding :=
  (d.request c clock).settle c result

/-- The time of a reset is pending unless the reset was rejected. -/
lemma afterCommand_reset (result : Except CommandError Unit) :
    d.afterCommand clock .resetTime result =
      { d with pending := if isRejection result then none else some clock } := by
  cases h : isRejection result <;> simp [afterCommand, settle, request, h]

lemma afterCommand_of_ne {c : Command} (hc : c ≠ .resetTime) (result : Except CommandError Unit) :
    d.afterCommand clock c result = d := by
  simp [afterCommand, settle, request, hc]

/-! ### Packets of each kind -/

/-- The acknowledgement of a reset confirms what is pending. -/
lemma value_decode_resetAck (rest : List UInt8) :
    (d.decode clock (0xFA :: 0x72 :: rest)).value = (none, d.confirm) := by
  rw [← value_installReference d clock]
  rfl

/-- The acknowledgement of a setup makes its flags byte the layout. -/
lemma value_decode_setupAck (flags : UInt8) (rest : List UInt8) :
    (d.decode clock (0xFA :: 0x79 :: flags :: rest)).value =
      (none, { d with layout := some ⟨flags⟩ }) := rfl

/-- A consumption packet that is decoded becomes a record and changes nothing. -/
lemma value_decode_consumption {rest : List UInt8} {r : ConsumptionRecord}
    (h : (Measure.decodeConsumption d.layout d.reference (0xFF :: rest)).value = .ok r) :
    (d.decode clock (0xFF :: rest)).value = (some (.consumption r), d) := by
  show (_ >>= _ : Logged (Option Record × Decoding)).value = _
  rw [Logged.value_bind, decodeConsumption, h]
  rfl

/-- All other acknowledgements, and those of a setup without flags, change nothing. -/
lemma acknowledge_of_other {p : Packet} (htag : p.head? = some 0xFA) (hreset : ¬ p.IsResetAck)
    (hsetup : p.ackedFlags? = none) : (d.acknowledge clock p).value = d := by
  rw [acknowledge.eq_def]
  split
  · next tag command rest =>
    rw [List.head?_cons, Option.some.injEq] at htag
    subst htag
    split_ifs with hcommand hcommand'
    · subst hcommand
      exact absurd ⟨rest, rfl⟩ hreset
    · subst hcommand'
      cases rest with
      | nil => rfl
      | cons flags rest => cases hsetup
    · rfl
  · rfl

/-- Packets change what is known only if they acknowledge a reset or a setup. -/
theorem decode_of_other {p : Packet} (hreset : ¬ p.IsResetAck) (hsetup : p.ackedFlags? = none) :
    (d.decode clock p).value.2 = d := by
  rw [decode.eq_def]
  split
  · rfl
  · next tag rest =>
    split_ifs with hconsumption hradio hack
    · rw [Logged.value_bind]
      split <;> rfl
    · split <;> rfl
    · subst hack
      exact d.acknowledge_of_other clock rfl hreset hsetup
    · rfl

/-- Of all packets, only the acknowledgement of a reset moves the reference or what is pending. -/
theorem decode_of_not_isResetAck {p : Packet} (h : ¬ p.IsResetAck) :
    (d.decode clock p).value.2.reference = d.reference ∧
      (d.decode clock p).value.2.pending = d.pending := by
  cases hsetup : p.ackedFlags? with
  | none =>
    rw [d.decode_of_other clock h hsetup]
    exact ⟨rfl, rfl⟩
  | some flags =>
    obtain ⟨rest, rfl⟩ := Packet.ackedFlags?_eq_some_iff.1 hsetup
    exact ⟨rfl, rfl⟩

/-- A packet leaves the layout that it acknowledges, or else the layout before it. -/
theorem layout_decode (p : Packet) :
    (d.decode clock p).value.2.layout = (p.ackedFlags?.map Layout.mk).or d.layout := by
  cases hsetup : p.ackedFlags? with
  | some flags =>
    obtain ⟨rest, rfl⟩ := Packet.ackedFlags?_eq_some_iff.1 hsetup
    rfl
  | none =>
    by_cases hreset : p.IsResetAck
    · obtain ⟨rest, rfl⟩ := hreset
      rw [value_decode_resetAck, layout_confirm]
      rfl
    · rw [d.decode_of_other clock hreset hsetup]
      rfl

end Decoding

end ControlNode
