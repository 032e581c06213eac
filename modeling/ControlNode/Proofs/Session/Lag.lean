import ControlNode.Proofs.Session.Setup

/-!
# Decoding late

Measurements that wait in the queue can be decoded before or after a command: the command answers
the same, the records are the same, and so is everything that is left (`Session.pump_perform_comm`).
A command only adds packets behind those that wait, so it commutes with putting packets in front of
the queue (`Session.value_perform_behind`); and to decode these packets reads nothing that the
command has changed, unless it is a reset of the clock and its acknowledgement is among them. That
exception is a real one (`Session.pump_perform_reset_eq_iff`).
-/

namespace ControlNode

/-! ### Packets that wait in front -/

namespace Inbox

/-- The inbox with packets that wait in front of its queue. -/
def behind (x : Inbox) (ps : List Packet) : Inbox := { x with queue := ps ++ x.queue }

variable (x : Inbox) (ps : List Packet)

lemma behind_take (k : Nat) :
    { x with queue := x.queue.drop k }.behind (x.queue.take k) = x := by
  rw [behind, List.take_append_drop]

lemma value_route_behind (p : Packet) :
    ((x.behind ps).route p).value = (x.route p).value.behind ps := by
  match h : p.kind? with
  | none =>
    rw [value_route_of_none h, value_route_of_none h]
    rfl
  | some .measurement =>
    rw [value_route_of_measurement h, value_route_of_measurement h]
    simp only [behind, List.append_assoc]
  | some .errorReport =>
    rw [value_route_of_errorReport h, value_route_of_errorReport h]
    rfl
  | some .answer =>
    rw [value_route_of_answer h, value_route_of_answer h]
    rfl

lemma value_routeAll_behind (arriving : List Packet) :
    ((x.behind ps).routeAll arriving).value = (x.routeAll arriving).value.behind ps := by
  induction arriving generalizing x with
  | nil => rfl
  | cons p arriving ih => rw [value_routeAll_cons, value_routeAll_cons, value_route_behind, ih]

lemma value_discardStale_behind :
    (x.behind ps).discardStale.value = x.discardStale.value.behind ps := by
  obtain ⟨mailbox, queue, tally⟩ := x
  cases mailbox <;> rfl

/-- To send a command does not look into the queue, if the write does not; `f` is what the packets
in front mean to the line. -/
lemma value_sendAndWait_behind {σ : Type} {write : Write σ} {f : σ → σ} {ps : List Packet}
    (hwrite : ∀ line wire x, (write (f line) wire (x.behind ps)).value =
      let written := (write line wire x).value
      (written.1, f written.2.1, written.2.2.behind ps))
    (timeout : Duration) (line : σ) (x : Inbox) (command : Packet) :
    ((x.behind ps).sendAndWait write timeout (f line) command).value =
      let sent := (x.sendAndWait write timeout line command).value
      (sent.1, f sent.2.1, sent.2.2.behind ps) := by
  cases h : Frame.encode command with
  | error e =>
    rw [value_sendAndWait_of_error timeout h, value_sendAndWait_of_error timeout h,
      value_discardStale_behind]
  | ok wire =>
    have hbehind := hwrite line wire x.discardStale.value
    rw [← value_discardStale_behind] at hbehind
    rw [value_sendAndWait_of_ok timeout h hbehind, value_sendAndWait_of_ok timeout h rfl]
    cases (write line wire x.discardStale.value).value.1 <;> rfl

end Inbox

namespace Bench

/-- The bench with packets that wait in front of its queue. -/
def behind (b : Bench) (ps : List Packet) : Bench := { b with inbox := b.inbox.behind ps }

lemma value_receivePieces_behind (d : Frame.Decoder) (x : Inbox) (ps : List Packet)
    (pieces : List (List UInt8)) :
    (receivePieces d (x.behind ps) pieces).value =
      let received := (receivePieces d x pieces).value
      (received.1, received.2.behind ps) := by
  induction pieces generalizing d x with
  | nil => rfl
  | cons piece pieces ih =>
    have hrouted := x.value_routeAll_behind ps (d.feed piece).value.1
    simp only [receivePieces, receivePiece, Logged.value_bind, Logged.value_pure, hrouted, ih]

lemma value_write_behind (ps : List Packet) (b : Bench) (wire : List UInt8) (x : Inbox) :
    (write (b.behind ps) wire (x.behind ps)).value =
      let written := (write b wire x).value
      (written.1, written.2.1.behind ps, written.2.2.behind ps) := by
  have hreceived := value_receivePieces_behind b.decoder x ps (b.device.head?.join.getD [])
  exact congrArg (fun received : Frame.Decoder × Inbox => (Except.ok (),
    { b.behind ps with
      decoder := received.1
      device := b.device.tail
      sent := b.sent ++ [wire] }, received.2)) hreceived

/-- A packet is sent and answered in the same way, whatever waits in front of the queue. -/
lemma value_exchange_behind (b : Bench) (ps : List Packet) (p : Packet) :
    ((b.behind ps).exchange p).value =
      ((b.exchange p).value.1, (b.exchange p).value.2.behind ps) := by
  have hsent : ((b.inbox.behind ps).sendAndWait write b.timeout (b.behind ps) p).value =
      let sent := (b.inbox.sendAndWait write b.timeout b p).value
      (sent.1, sent.2.1.behind ps, sent.2.2.behind ps) :=
    Inbox.value_sendAndWait_behind (f := (behind · ps)) (value_write_behind ps) b.timeout b
      b.inbox p
  exact congrArg (fun sent : Option Packet × Bench × Inbox =>
    (sent.1, { sent.2.1 with inbox := sent.2.2 })) hsent

end Bench

/-! ### What is decoded around a command -/

namespace Decoding

variable (d : Decoding) (clock : Float)

/-- What is pending is only looked at when a reset is acknowledged. -/
lemma value_decode_pending {p : Packet} (hp : ¬ p.IsResetAck) (pending : Option Float) :
    ({ d with pending }.decode clock p).value =
      ((d.decode clock p).value.1, { (d.decode clock p).value.2 with pending }) := by
  have hrecord : ({ d with pending }.decode clock p).value.1 = (d.decode clock p).value.1 :=
    @record_decode_congr { d with pending } d clock clock rfl rfl p
  refine Prod.ext hrecord ?_
  cases hsetup : p.ackedFlags? with
  | some flags =>
    obtain ⟨rest, rfl⟩ := Packet.ackedFlags?_eq_some_iff.1 hsetup
    rfl
  | none => rw [decode_of_other _ clock hp hsetup, decode_of_other _ clock hp hsetup]

lemma value_decodeAll_pending {ps : List Packet} (hps : ∀ p ∈ ps, ¬ p.IsResetAck)
    (pending : Option Float) :
    ({ d with pending }.decodeAll clock ps).value =
      ((d.decodeAll clock ps).value.1, { (d.decodeAll clock ps).value.2 with pending }) := by
  induction ps generalizing d with
  | nil => rfl
  | cons p ps ih =>
    have hp := d.value_decode_pending clock (hps p List.mem_cons_self) pending
    have hlater := ih (d.decode clock p).value.2 fun q hq => hps q (List.mem_cons_of_mem p hq)
    simp only [decodeAll, Logged.value_bind, Logged.value_pure, hp, hlater]

lemma length_decodeAll (ps : List Packet) : (d.decodeAll clock ps).value.1.length = ps.length := by
  induction ps generalizing d with
  | nil => rfl
  | cons p ps ih => exact congrArg (· + 1) (ih (d.decode clock p).value.2)

/-- Once the acknowledgement of a reset is decoded, nothing is pending. -/
lemma pending_decodeAll {ps : List Packet} (h : d.pending = none ∨ ∃ p ∈ ps, p.IsResetAck) :
    (d.decodeAll clock ps).value.2.pending = none := by
  induction ps generalizing d with
  | nil => exact h.resolve_right (by simp)
  | cons p ps ih =>
    refine ih (d.decode clock p).value.2 ?_
    by_cases hp : p.IsResetAck
    · obtain ⟨rest, rfl⟩ := hp
      rw [value_decode_resetAck, pending_confirm]
      exact .inl rfl
    · rw [(d.decode_of_not_isResetAck clock hp).2]
      simpa [hp] using h

/-- Decoding is the same before and after a command, unless the command is a reset whose
acknowledgement is decoded. -/
lemma value_decodeAll_afterCommand {c : Command} {ps : List Packet}
    (hreset : c = .resetTime → ∀ p ∈ ps, ¬ p.IsResetAck) (result : Except CommandError Unit) :
    ((d.afterCommand clock c result).decodeAll clock ps).value =
      ((d.decodeAll clock ps).value.1,
        (d.decodeAll clock ps).value.2.afterCommand clock c result) := by
  by_cases hc : c = .resetTime
  · subst hc
    rw [afterCommand_reset, afterCommand_reset, value_decodeAll_pending d clock (hreset rfl)]
  · rw [afterCommand_of_ne d clock hc, afterCommand_of_ne _ clock hc]

end Decoding

/-! ### The two orders -/

namespace Session

/-- The session with packets that wait in front of its queue. -/
def behind (s : Session Bench) (ps : List Packet) : Session Bench :=
  { s with carrier := s.carrier.behind ps }

variable (s : Session Bench)

/-- As many packets as wait in front are decoded, and nothing else happens. -/
lemma value_pump_behind (ps : List Packet) :
    ((s.behind ps).pump ps.length).value =
      let decoded := (s.decoding.decodeAll s.clock ps).value
      (decoded.1, { s with decoding := decoded.2 }) := by
  induction ps generalizing s with
  | nil => rfl
  | cons p ps ih =>
    have hqueue : (s.behind (p :: ps)).carrier.inbox.queue =
        p :: (s.behind ps).carrier.inbox.queue := rfl
    have hlater := ih (s.decode p).value.2
    rw [List.length_cons, value_pump_succ hqueue]
    exact congrArg (fun later : List (Option Record) × Session Bench =>
      ((s.decode p).value.1 :: later.1, later.2)) hlater

lemma value_perform_behind (ps : List Packet) (c : Command) :
    ((s.behind ps).perform c).value =
      ((s.perform c).value.1, (s.perform c).value.2.behind ps) := by
  cases h : c.encode with
  | error e => rw [perform_of_error h, perform_of_error h]
  | ok p =>
    have hexchange : (Carrier.exchange (s.behind ps).carrier p).value =
        ((s.carrier.exchange p).value.1, (s.carrier.exchange p).value.2.behind ps) :=
      Bench.value_exchange_behind s.carrier ps p
    rw [value_perform_of_ok h, value_perform_of_ok h, hexchange]
    rfl

/-- What is left when the packets in front are decoded first. -/
lemma value_perform_pump_behind (ps : List Packet) (c : Command) :
    let decoded := (s.decoding.decodeAll s.clock ps).value
    let done := (s.perform c).value
    (((s.behind ps).pump ps.length).value.2.perform c).value =
      (done.1, { done.2 with decoding := decoded.2.afterCommand s.clock c done.1 }) := by
  intro decoded done
  rw [value_pump_behind]
  exact s.value_perform_decoding decoded.2 c

/-- What is left when the command is given first. -/
lemma value_pump_perform_behind (ps : List Packet) (c : Command) :
    let done := (s.perform c).value
    let decoded := ((s.decoding.afterCommand s.clock c done.1).decodeAll s.clock ps).value
    (((s.behind ps).perform c).value.2.pump ps.length).value =
      (decoded.1, { done.2 with decoding := decoded.2 }) := by
  intro done decoded
  have hdecoding : done.2.decoding = s.decoding.afterCommand s.clock c done.1 :=
    s.decoding_perform c
  have hclock : done.2.clock = s.clock := s.clock_perform c
  calc (((s.behind ps).perform c).value.2.pump ps.length).value
      = ((done.2.behind ps).pump ps.length).value := by rw [value_perform_behind]
    _ = (let later := (done.2.decoding.decodeAll done.2.clock ps).value
        (later.1, { done.2 with decoding := later.2 })) := done.2.value_pump_behind ps
    _ = (decoded.1, { done.2 with decoding := decoded.2 }) := by rw [hdecoding, hclock]

/-- Nothing but the acknowledgement of a reset tells the two orders apart. -/
lemma pump_perform_behind {ps : List Packet} {c : Command}
    (hreset : c = .resetTime → ∀ p ∈ ps, ¬ p.IsResetAck) :
    let pumped := ((s.behind ps).pump ps.length).value
    let performed := ((s.behind ps).perform c).value
    (performed.2.pump ps.length).value = (pumped.1, (pumped.2.perform c).value.2) := by
  intro pumped performed
  have hpumped : pumped.1 = (s.decoding.decodeAll s.clock ps).value.1 :=
    congrArg Prod.fst (s.value_pump_behind ps)
  rw [value_pump_perform_behind, value_perform_pump_behind, hpumped,
    Decoding.value_decodeAll_afterCommand s.decoding s.clock hreset]

/-- Every session is one with the oldest packets of its queue in front. -/
lemma exists_behind (k : Nat) :
    ∃ t : Session Bench, t.behind (s.carrier.inbox.queue.take k) = s := by
  refine ⟨{ s with carrier.inbox.queue := s.carrier.inbox.queue.drop k }, ?_⟩
  exact congrArg (fun inbox => { s with carrier.inbox := inbox }) (s.carrier.inbox.behind_take k)

variable {s} {c : Command} {k : Nat}

/-- For every session with at least `k` waiting measurements and every prepared burst of the device,
it makes no difference whether a command is given before or after these are decoded: it comes to
the same, the records are the same, and all that is left is the same. A reset of the clock must not
have its acknowledgement among them. -/
theorem pump_perform_comm (hk : k ≤ s.carrier.inbox.queue.length)
    (hreset : c = .resetTime → ∀ p ∈ s.carrier.inbox.queue.take k, ¬ p.IsResetAck) :
    let pumped := (s.pump k).value
    let performed := (s.perform c).value
    (pumped.2.perform c).value.1 = performed.1 ∧
    (performed.2.pump k).value.1 = pumped.1 ∧ pumped.1.length = k ∧
    (performed.2.pump k).value.2 = (pumped.2.perform c).value.2 := by
  obtain ⟨t, ht⟩ := s.exists_behind k
  have hlength : (s.carrier.inbox.queue.take k).length = k := List.length_take_of_le hk
  generalize s.carrier.inbox.queue.take k = ps at ht hlength hreset
  subst ht hlength
  intro pumped performed
  have hpumped : pumped.1 = (t.decoding.decodeAll t.clock ps).value.1 :=
    congrArg Prod.fst (t.value_pump_behind ps)
  have hresult : (pumped.2.perform c).value.1 = performed.1 := by
    have hperformed : performed = ((t.perform c).value.1, (t.perform c).value.2.behind ps) :=
      t.value_perform_behind ps c
    rw [value_perform_pump_behind, hperformed]
  have hcomm : (performed.2.pump ps.length).value = (pumped.1, (pumped.2.perform c).value.2) :=
    t.pump_perform_behind hreset
  rw [hcomm, hpumped, Decoding.length_decodeAll]
  exact ⟨hresult, rfl, rfl, rfl⟩

/-- The acknowledgement of a setup and a sample wait, a radio packet behind them. -/
def waiting : List Packet := [[0xFA, 0x79, 0x11], [0xFF, 0, 1, 0, 0, 0, 7], [0xFE, 1]]

/-- A reset that is accepted and acknowledged in one burst, which also completes a sample. -/
def resetBurst : List (List UInt8) :=
  [[0x80, 0x02, 0x72, 0x0A, 0x80], [0x02, 0xFA, 0x72, 0x80, 0x01, 0xFF]]

/-- The acknowledgement comes behind the packets that wait. -/
theorem pump_perform_comm_reset :
    let s : Session Bench :=
      { clock := 1000, carrier := { inbox := { queue := waiting }, device := [some resetBurst] } }
    let pumped := (s.pump 2).value
    let performed := (s.perform .resetTime).value
    2 ≤ s.carrier.inbox.queue.length ∧
    (Command.resetTime = .resetTime → ∀ p ∈ s.carrier.inbox.queue.take 2, ¬ p.IsResetAck) ∧
    (pumped.2.perform .resetTime).value.1 = performed.1 ∧
    (performed.2.pump 2).value.1 = pumped.1 ∧ pumped.1.length = 2 ∧
    (performed.2.pump 2).value.2 = (pumped.2.perform .resetTime).value.2 := by
  intro s
  have hk : 2 ≤ s.carrier.inbox.queue.length := by decide
  have hreset : Command.resetTime = .resetTime →
      ∀ p ∈ s.carrier.inbox.queue.take 2, ¬ p.IsResetAck := by
    simp [s, waiting, Packet.IsResetAck]
  exact ⟨hk, hreset, pump_perform_comm hk hreset⟩

/-! ### The exception -/

/-- If a reset of the clock is not rejected, the two orders leave the same exactly if none of the
packets acknowledges a reset: else one order leaves the reset pending, and the other does not. -/
theorem pump_perform_reset_eq_iff (hk : k ≤ s.carrier.inbox.queue.length)
    (hresult : Decoding.isRejection (s.perform .resetTime).value.1 = false) :
    ((s.perform .resetTime).value.2.pump k).value.2 =
        ((s.pump k).value.2.perform .resetTime).value.2 ↔
      ∀ p ∈ s.carrier.inbox.queue.take k, ¬ p.IsResetAck := by
  obtain ⟨t, ht⟩ := s.exists_behind k
  have hlength : (s.carrier.inbox.queue.take k).length = k := List.length_take_of_le hk
  generalize s.carrier.inbox.queue.take k = ps at ht hlength
  subst ht hlength
  constructor
  · intro h p hp hack
    rw [value_perform_behind] at hresult
    have hfirst : (((t.behind ps).perform .resetTime).value.2.pump
        ps.length).value.2.decoding.pending = none := by
      rw [value_pump_perform_behind]
      exact Decoding.pending_decodeAll _ _ (.inr ⟨p, hp, hack⟩)
    have hlast : (((t.behind ps).pump ps.length).value.2.perform
        .resetTime).value.2.decoding.pending = some t.clock := by
      rw [value_perform_pump_behind, Decoding.afterCommand_reset, hresult]
      rfl
    rw [h, hlast] at hfirst
    cases hfirst
  · intro hps
    exact congrArg Prod.snd (t.pump_perform_behind fun _ => hps)

end Session

end ControlNode
