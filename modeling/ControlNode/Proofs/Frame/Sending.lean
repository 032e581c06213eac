import ControlNode.Proofs.Frame.Acceptance
import ControlNode.Proofs.Frame.Writer

/-!
# Packets that get through

Packets are sent one after the other over a line that accepts parts, is held up and fails. A sending
that succeeds has made the line accept the whole frame (`exists_accepted`), and one that fails may
have broken it off. As long as no frame is broken off in the middle, the accepted bytes are frames
and nothing else, so the other side finds exactly the packets again whose frames were accepted
(`feedAll_sendings`). Every frame is put together anew, whatever became of the one before.
-/

namespace ControlNode.Frame.Writer

/-- The sending of a packet: what it came to, and the bytes that the line accepted meanwhile. -/
structure Sending where
  packet : Packet
  result : Except Error Unit
  accepted : List UInt8

namespace Sending

/-- Whether the line accepted the whole frame of the packet. -/
def IsWhole (s : Sending) : Prop := encode s.packet = .ok s.accepted

instance : DecidablePred IsWhole := fun s =>
  inferInstanceAs (Decidable (encode s.packet = .ok s.accepted))

/-- Whether a sending that failed did so before the first byte or after the last one. -/
def IsClean (s : Sending) : Prop := s.result ≠ .ok () → s.accepted = [] ∨ s.IsWhole

instance : DecidablePred IsClean := fun s =>
  inferInstanceAs (Decidable (s.result ≠ .ok () → s.accepted = [] ∨ s.IsWhole))

end Sending

/-- The sendings of packets, one after the other. -/
def sendings (w : Writer) : List Packet → List Sending
  | [] => []
  | p :: ps =>
    let (result, w') := w.send p
    ⟨p, result, w'.sink.accepted.drop w.sink.accepted.length⟩ :: w'.sendings ps

/-- The packets of which the line accepted the whole frame. -/
def delivered (sent : List Sending) : List Packet :=
  (sent.filter fun s => s.IsWhole).map Sending.packet

variable {w : Writer} {p : Packet} {s : Sending}

/-! ### One sending -/

/-- A sending that succeeds has made the line accept the whole frame. -/
lemma exists_accepted (w : Writer) (p : Packet) :
    ∃ taken, (w.send p).2.sink.accepted = w.sink.accepted ++ taken ∧
      ((w.send p).1 = .ok () → encode p = .ok taken) := by
  cases h : encode p with
  | error e =>
    have hstep : ((w.send p).1, (w.send p).2.sink) = (.error e, w.sink) :=
      step_of_error (show (Step.send p).image = .error e from h)
    obtain ⟨hresult, hsink⟩ := Prod.mk.inj hstep
    refine ⟨[], ?_, fun hok => ?_⟩
    · rw [List.append_nil]
      exact congrArg Line.Sink.accepted hsink
    · cases hresult.symm.trans hok
  | ok image =>
    obtain ⟨calls, hruns⟩ := Outlet.exists_runs w.sink image
    have hstep : ((w.send p).1, (w.send p).2.sink) = Outlet.writeWire w.sink image :=
      step_of_image (show (Step.send p).image = .ok image from h)
    rw [← hstep] at hruns
    refine ⟨Line.takenBy calls, (Line.Sink.ledger_of_trace hruns.trace).accepted, fun hok => ?_⟩
    rw [(hruns.course.eq_ok_iff.1 hok).1]

/-! ### Any number of sendings -/

lemma sendings_cons (w : Writer) (p : Packet) (ps : List Packet) :
    w.sendings (p :: ps) =
      ⟨p, (w.send p).1, (w.send p).2.sink.accepted.drop w.sink.accepted.length⟩ ::
        (w.send p).2.sendings ps := rfl

lemma run_sends_cons (w : Writer) (p : Packet) (ps : List Packet) :
    w.run ((p :: ps).map Step.send) =
      ((w.send p).1 :: ((w.send p).2.run (ps.map Step.send)).1,
        ((w.send p).2.run (ps.map Step.send)).2) := rfl

lemma map_packet_sendings (w : Writer) (ps : List Packet) :
    (w.sendings ps).map Sending.packet = ps := by
  induction ps generalizing w with
  | nil => rfl
  | cons p ps ih => rw [sendings_cons, List.map_cons, ih]

lemma map_result_sendings (w : Writer) (ps : List Packet) :
    (w.sendings ps).map Sending.result = (w.run (ps.map Step.send)).1 := by
  induction ps generalizing w with
  | nil => rfl
  | cons p ps ih => rw [sendings_cons, List.map_cons, ih, run_sends_cons]

/-- The line has accepted what it accepted in each of the sendings. -/
lemma accepted_run_sends (w : Writer) (ps : List Packet) :
    (w.run (ps.map Step.send)).2.sink.accepted =
      w.sink.accepted ++ (w.sendings ps).flatMap Sending.accepted := by
  induction ps generalizing w with
  | nil => exact (List.append_nil _).symm
  | cons p ps ih =>
    obtain ⟨taken, htaken, -⟩ := exists_accepted w p
    rw [run_sends_cons, ih, sendings_cons, List.flatMap_cons, htaken, List.drop_left,
      List.append_assoc]

lemma isWhole_of_ok {ps : List Packet} (hs : s ∈ w.sendings ps) (hok : s.result = .ok ()) :
    s.IsWhole := by
  induction ps generalizing w with
  | nil => cases hs
  | cons p ps ih =>
    rw [sendings_cons] at hs
    rcases List.mem_cons.1 hs with rfl | hs
    · obtain ⟨taken, htaken, hwhole⟩ := exists_accepted w p
      rw [Sending.IsWhole, htaken, List.drop_left]
      exact hwhole hok
    · exact ih hs

/-! ### What the other side finds -/

/-- Bytes accepted in clean sendings are the frames of the packets that were delivered. -/
lemma exists_frames {sent : List Sending} (hok : ∀ s ∈ sent, s.result = .ok () → s.IsWhole)
    (hclean : ∀ s ∈ sent, s.IsClean) :
    ∃ frames, AreFrames frames (delivered sent) ∧
      frames.flatten = sent.flatMap Sending.accepted := by
  induction sent with
  | nil => exact ⟨[], .nil, rfl⟩
  | cons s sent ih =>
    obtain ⟨hsucceeded, hok⟩ := List.forall_mem_cons.1 hok
    obtain ⟨hbroken, hclean⟩ := List.forall_mem_cons.1 hclean
    obtain ⟨frames, hframes, hflatten⟩ := ih hok hclean
    by_cases hwhole : s.IsWhole
    · refine ⟨s.accepted :: frames, ?_, ?_⟩
      · rw [delivered, List.filter_cons_of_pos (by simpa using hwhole), List.map_cons]
        exact .cons hwhole hframes
      · rw [List.flatten_cons, List.flatMap_cons, hflatten]
    · -- a sending that is clean and not whole has failed before the first byte
      have hfailed : s.result ≠ .ok () := fun h => hwhole (hsucceeded h)
      have hnothing : s.accepted = [] := (hbroken hfailed).resolve_right hwhole
      refine ⟨frames, ?_, ?_⟩
      · rw [delivered, List.filter_cons_of_neg (by simpa using hwhole)]
        exact hframes
      · rw [List.flatMap_cons, hnothing, List.nil_append, hflatten]

/-- Packets with and without frames are sent one after the other over any line, where a sending that
fails has broken off its frame before the first byte or after the last one. Into whatever pieces the
accepted bytes are cut, the other side finds exactly the packets in them whose whole frame was
accepted, in their order, drops nothing and waits for a frame. Each packet whose sending succeeded is
one of them, at its place among the others. -/
theorem feedAll_sendings (w : Writer) (ps : List Packet)
    (hclean : ∀ s ∈ w.sendings ps, s.IsClean) (pieces : List (List UInt8))
    (hpieces : w.sink.accepted ++ pieces.flatten =
      (w.run (ps.map Step.send)).2.sink.accepted) :
    let sent := w.sendings ps
    let heard := (({} : Decoder).feedAll pieces).value
    sent.map Sending.packet = ps ∧
    sent.map Sending.result = (w.run (ps.map Step.send)).1 ∧
    heard = (delivered sent,
      { tally := { frames := (delivered sent).length, discardedBytes := 0, zeroLength := 0 } }) ∧
    heard.2.isIdle = true ∧
    ∀ before s after, sent = before ++ s :: after → s.result = .ok () →
      heard.1 = delivered before ++ s.packet :: delivered after := by
  intro sent heard
  have hok : ∀ s ∈ sent, s.result = .ok () → s.IsWhole := fun s hs => isWhole_of_ok hs
  obtain ⟨frames, hframes, hflatten⟩ := exists_frames hok hclean
  have hheard : heard =
      (delivered sent, { tally := { frames := (delivered sent).length } }) := by
    have hdrained : ({} : Decoder).IsDrained := rfl
    have hfeed := Decoder.feed_frames 0 hframes
    rw [zero_add] at hfeed
    rw [accepted_run_sends, List.append_cancel_left_eq] at hpieces
    calc heard = (({} : Decoder).feed pieces.flatten).value :=
          Decoder.feedAll_eq_feed hdrained pieces
      _ = (({} : Decoder).feed frames.flatten).value := by rw [hpieces, hflatten]
      _ = _ := hfeed
  rw [hheard]
  refine ⟨map_packet_sendings w ps, map_result_sendings w ps, rfl, rfl, ?_⟩
  intro before s after hsent hresult
  have hwhole : s.IsWhole := hok s (by simp [hsent]) hresult
  rw [hsent, delivered, List.filter_append, List.filter_cons_of_pos (by simpa using hwhole),
    List.map_append, List.map_cons]
  rfl

/-- The first frame is torn by an interruption and gets through; the second packet has no frame; the
line is closed before the third; of the fourth all is accepted, but the flush fails; and the fifth
is the first one again. -/
theorem feedAll_sendings_torn :
    let sink : Line.Sink := {
      responses := [.accept 1, .fault (.ofKind .interrupted), .accept 9, .accept 0, .accept 2,
        .fault (.ofKind .wouldBlock)]
      flushes := [some (.ofKind .wouldBlock), none, some (.ofKind .brokenPipe)] }
    let w : Writer := { sink, buffer := [0x80] }
    let ps : List Packet := [[0x72], [], [0x71, 0x00], [0x70, 0x01], [0x72]]
    let pieces : List (List UInt8) := [[0x80], [0x01, 0x72, 0x80, 0x02], [0x70, 0x01, 0x80, 0x01],
      [0x72]]
    (∀ s ∈ w.sendings ps, s.IsClean) ∧
      w.sink.accepted ++ pieces.flatten = (w.run (ps.map Step.send)).2.sink.accepted ∧
      (w.run (ps.map Step.send)).1 = [.ok (), .error .emptyPacket, .error .closed,
        .error (.fault (.ofKind .brokenPipe)), .ok ()] ∧
      (({} : Decoder).feedAll pieces).value =
        ([[0x72], [0x70, 0x01], [0x72]], { tally := { frames := 3 } }) := by
  intro sink w ps pieces
  have hclean : ∀ s ∈ w.sendings ps, s.IsClean := by decide +kernel
  have hpieces : w.sink.accepted ++ pieces.flatten =
      (w.run (ps.map Step.send)).2.sink.accepted := by decide +kernel
  obtain ⟨-, -, hheard, -⟩ := feedAll_sendings w ps hclean pieces hpieces
  have hdelivered : delivered (w.sendings ps) = [[0x72], [0x70, 0x01], [0x72]] := by
    decide +kernel
  rw [hdelivered] at hheard
  exact ⟨hclean, hpieces, by decide +kernel, hheard⟩

end ControlNode.Frame.Writer
