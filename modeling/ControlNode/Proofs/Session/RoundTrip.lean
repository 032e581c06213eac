import ControlNode.Proofs.Frame.Acceptance
import ControlNode.Proofs.Measure.RoundTrip
import ControlNode.Proofs.Session.Bench
import ControlNode.Proofs.Session.Decoding

/-!
# From a setup to its records

A setup is sent to the control node, acknowledged, and then measured with. The session learns the
layout from the flags byte of the acknowledgement alone, and that is enough to decode the packets
of the setup (`Session.decode_after_setupAck`), also when acknowledgement and packet come as frames
on the line and wait in the measurement queue (`Session.pump_after_frames`).
-/

namespace ControlNode

open ControlNode.Measure

/-! ### Packets that arrive as frames -/

namespace Bench

/-- The frames of two measurements put both into the queue, whatever the pieces are in which they
arrive. -/
lemma queue_receive_frames {b : Bench} (hidle : b.decoder.isIdle = true) {p q : Packet}
    {pieces : List (List UInt8)} {frame frame' : List UInt8} (hp : Frame.encode p = .ok frame)
    (hq : Frame.encode q = .ok frame') (hpieces : pieces.flatten = frame ++ frame')
    (hkind : p.kind? = some .measurement) (hkind' : q.kind? = some .measurement) :
    (b.receive pieces).value.inbox.queue = b.inbox.queue ++ [p, q] := by
  have hdecoder := Frame.Decoder.eq_of_isIdle hidle
  have hdrained : b.decoder.IsDrained := by
    rw [hdecoder]
    exact Frame.Decoder.isDrained_remainder .nothing _
  have hfeed : (b.decoder.feed pieces.flatten).value.1 = [p, q] := by
    rw [hdecoder, hpieces, Frame.Decoder.feed_append, Frame.Decoder.feed_frame _ hp,
      Frame.Decoder.feed_frame _ hq]
    rfl
  rw [value_receive hdrained, hfeed]
  simp only [Inbox.queue_routeAll, List.filter_cons, hkind, hkind', decide_true, if_true,
    List.filter_nil]

end Bench

namespace Session

/-! ### Measuring with a setup -/

variable (setup : ConsumptionSetup) {ms : List Reading}

/-- What a packet of the setup says when ticks count from the given time. -/
def recordOf (ms : List Reading) (reference : Float) : Record :=
  .consumption { rail := some setup.rail, samples := ms.map (setup.sampleFrom reference) }

/-- After the acknowledgement of a setup, a packet of the setup is decoded to what was measured. -/
lemma decode_after_setupAck {σ : Type} (s : Session σ) {reference : Float}
    (hreference : s.decoding.reference = some reference) (hcount : ms.length ≤ 255) :
    (s.decode [0xFA, 0x79, setup.flags]).value =
        (none, { s with decoding.layout := some setup.layout }) ∧
      ({ s with decoding.layout := some setup.layout }.decode (setup.packet ms)).value.1 =
        some (recordOf setup ms reference) := by
  constructor
  · rw [value_decode, Decoding.value_decode_setupAck]
    rfl
  · have hdecode := congrArg Logged.value (decodeConsumption_packet setup reference hcount)
    rw [← hreference] at hdecode
    rw [value_decode]
    exact congrArg Prod.fst
      (Decoding.value_decode_consumption { s.decoding with layout := some setup.layout } s.clock
        hdecode)

/-- The acknowledgement of a setup and a packet of the setup are decoded in this order when they
arrive as frames, after whatever waits in the queue before them. -/
lemma pump_after_frames (s : Session Bench) (hidle : s.carrier.decoder.isIdle = true)
    {pieces : List (List UInt8)} {frame frame' : List UInt8}
    (hack : Frame.encode [0xFA, 0x79, setup.flags] = .ok frame)
    (hpacket : Frame.encode (setup.packet ms) = .ok frame')
    (hpieces : pieces.flatten = frame ++ frame') (hcount : ms.length ≤ 255) {reference : Float} :
    let received : Session Bench := { s with carrier := (s.carrier.receive pieces).value }
    let due := (received.pump s.carrier.inbox.queue.length).value.2
    due.decoding.reference = some reference →
      (due.pump 2).value.1 = [none, some (recordOf setup ms reference)] := by
  intro received due hreference
  have hqueue : due.carrier.inbox.queue = [[0xFA, 0x79, setup.flags], setup.packet ms] := by
    rw [carrier_pump]
    show (s.carrier.receive pieces).value.inbox.queue.drop _ = _
    rw [Bench.queue_receive_frames hidle hack hpacket hpieces rfl rfl, List.drop_left]
  obtain ⟨hdecode, hdecode'⟩ := decode_after_setupAck setup
    { due with carrier.inbox.queue := [setup.packet ms] } hreference hcount
  rw [value_pump_succ hqueue, hdecode, value_pump_succ rfl]
  simp only [List.cons.injEq, true_and]
  exact ⟨hdecode', rfl⟩

/-- The command of a setup that selects anything names the setup by a flags byte. Once this byte is
acknowledged, a packet with it and with up to 255 samples is decoded to a record of the rail of the
setup and of what was measured: ticks count from the time reference, the selected values are
bit for bit those that were sent, the others are missing. If the packet has a frame, it may as well
come as a frame after that of the acknowledgement, in any pieces, and wait in the queue. -/
theorem records_of_setup (setup : ConsumptionSetup) (henabled : setup.isEnabled = true)
    (ms : List Reading) (hcount : ms.length ≤ 255) :
    ∃ flags circuit, (Command.consumption (some setup)).encode = .ok [0x79, flags, circuit] ∧
      let ack : Packet := [0xFA, 0x79, flags]
      let packet : Packet := 0xFF :: flags :: UInt8.ofNat ms.length :: ms.flatMap setup.sampleBytes
      let record (reference : Float) : Record :=
        .consumption { rail := some setup.rail, samples := ms.map (setup.sampleFrom reference) }
      (∀ (σ : Type) (s : Session σ) (reference : Float), s.decoding.reference = some reference →
        ((s.decode ack).value.2.decode packet).value.1 = some (record reference)) ∧
      (3 + ms.length * (Layout.mk flags).sampleLength ≤ 255 →
        ∃ frame frame', Frame.encode ack = .ok frame ∧ Frame.encode packet = .ok frame' ∧
          ∀ (s : Session Bench) (pieces : List (List UInt8)) (reference : Float),
            s.carrier.decoder.isIdle = true → pieces.flatten = frame ++ frame' →
            let received : Session Bench := { s with carrier := (s.carrier.receive pieces).value }
            let due := (received.pump s.carrier.inbox.queue.length).value.2
            due.decoding.reference = some reference →
              (due.pump 2).value.1 = [none, some (record reference)]) := by
  refine ⟨setup.flags, setup.circuitByte, ?_, ?_, fun hlength => ?_⟩
  · rw [Command.encode, if_pos henabled]
    rfl
  · intro σ s reference hreference
    obtain ⟨hack, hpacket⟩ := decode_after_setupAck setup s hreference hcount
    rw [hack]
    exact hpacket
  · have hpacket : 1 ≤ (setup.packet ms).length ∧ (setup.packet ms).length ≤ 255 := by
      rw [setup.length_packet]
      exact ⟨by omega, hlength⟩
    refine ⟨_, _, rfl, Frame.encode_of_length hpacket.1 hpacket.2, ?_⟩
    intro s pieces reference hidle hpieces
    exact pump_after_frames setup s hidle rfl (Frame.encode_of_length hpacket.1 hpacket.2) hpieces
      hcount

theorem records_of_setup_5v :
    let setup : ConsumptionSetup := { rail := .v5, voltage := true, current := true }
    let m : Reading := ⟨32768, fun q => if q = .voltage then ⟨0x40533333⟩ else ⟨0x7FC00001⟩⟩
    setup.isEnabled = true ∧ [m].length ≤ 255 ∧
      ∀ s : Session Bench, s.decoding.reference = some 1000 →
        ((s.decode [0xFA, 0x79, 0x26]).value.2.decode
          [0xFF, 0x26, 1, 0, 0, 0x80, 0, 0x40, 0x53, 0x33, 0x33, 0x7F, 0xC0, 0, 1]).value.1 =
        some (.consumption { rail := some .v5, samples := [{
          timestamp := 1000 + (32768 : UInt32).toFloat / 32768
          power := none
          voltage := some ⟨0x40533333⟩
          current := some ⟨0x7FC00001⟩ }] }) := by
  intro setup m
  have henabled : setup.isEnabled = true := rfl
  have hcount : [m].length ≤ 255 := by decide
  obtain ⟨flags, circuit, hencode, hdecode, -⟩ := records_of_setup setup henabled [m] hcount
  have hflags : setup.flags = 0x26 := by decide
  have hcommand : (Command.consumption (some setup)).encode =
      .ok [0x79, setup.flags, setup.circuitByte] := rfl
  have hbytes : [m].flatMap setup.sampleBytes =
      [0, 0, 0x80, 0, 0x40, 0x53, 0x33, 0x33, 0x7F, 0xC0, 0, 1] := by decide
  rw [hcommand, hflags] at hencode
  cases hencode
  rw [hbytes] at hdecode
  exact ⟨henabled, hcount, fun s => hdecode Bench s 1000⟩

end Session

end ControlNode
