import ControlNode.Connection.Basic
import ControlNode.Proofs.Frame.Acceptance
import ControlNode.Proofs.Frame.Intake
import ControlNode.Proofs.Inbox.Pairing

/-!
# Exchanges over a connection that stays up

On a line that goes on, listening never comes to its end: a read returns data, or is interrupted, or
finds nothing in time (`Intake.next_of_goesOn`). What a node replies does not end the line either,
so a connection to a node that waits for a frame is ready, and stays ready over any exchange. The
node then hears the packet of each exchange, and nothing else (`Connection.exchange_of_ready`).
-/

namespace ControlNode

open ControlNode.Frame ControlNode.Line

/-! ### Lines that go on -/

namespace Line.Source

/-- Whether a line goes on, whatever is read from it. -/
structure GoesOn (s : Source) : Prop where
  arrivals : ∀ a ∈ s.arrivals, a.goesOn = true
  ending : s.ending = .quiet

variable {s s' : Source} {limit : Nat} {result : Except Fault (List UInt8)}

/-- A read of a line that goes on returns data or a fault after which the line goes on. -/
lemma GoesOn.read (h : s.GoesOn) (hlimit : 0 < limit) (hread : s.read limit = (result, s')) :
    s'.GoesOn ∧
      match result with
      | .ok bytes => bytes ≠ []
      | .error f => (Arrival.fault f).goesOn = true := by
  obtain ⟨arrivals, kept, ending, calls⟩ := s
  obtain ⟨harrivals, rfl⟩ := h
  have hlimit : limit ≠ 0 := Nat.ne_of_gt hlimit
  have hlater {a : Arrival} {later : List Arrival} (h : arrivals = a :: later) :
      ∀ b ∈ later, b.goesOn = true := by
    intro b hb
    apply harrivals
    rw [h]
    exact List.mem_cons_of_mem a hb
  match kept, arrivals with
  | b :: kept, arrivals =>
    cases hread
    refine ⟨⟨harrivals, rfl⟩, ?_⟩
    simp [hlimit]
  | [], .data bytes :: later =>
    cases hread
    refine ⟨⟨hlater rfl, rfl⟩, ?_⟩
    have hbytes := harrivals (.data bytes) List.mem_cons_self
    simpa [Arrival.goesOn, hlimit] using hbytes
  | [], .fault f :: later =>
    cases hread
    exact ⟨⟨hlater rfl, rfl⟩, harrivals (.fault f) List.mem_cons_self⟩
  | [], [] =>
    cases hread
    exact ⟨⟨harrivals, rfl⟩, rfl⟩

end Line.Source

/-- Taking a packet from a line that goes on never fails. -/
lemma Frame.Intake.next_of_goesOn {x : Intake} (h : x.source.GoesOn) :
    ∃ p? x', x.next = (.ok p?, x') ∧ x'.source.GoesOn := by
  have hlimit : 0 < readLimit := Nat.succ_pos _
  fun_induction next x with
  | case1 x p d hp => exact ⟨some p, _, rfl, h⟩
  | case2 x d hp s hread => exact absurd rfl (h.read hlimit hread).2
  | case3 x d hp b bytes s hread ih => exact ih (h.read hlimit hread).1
  | case4 x d hp f s hread hf ih => exact ih (h.read hlimit hread).1
  | case5 x d hp f s hread hf hpoll => exact ⟨none, _, rfl, (h.read hlimit hread).1⟩
  | case6 x d hp f s hread hf hpoll =>
    -- any other fault would have ended the line
    have hgoes := (h.read hlimit hread).2
    simp [Arrival.goesOn, hf, hpoll] at hgoes

/-! ### Listening without end -/

lemma Connection.goesOn_of_mem_arrivals {pieces : List (List UInt8)} {a : Arrival}
    (h : a ∈ Connection.arrivals pieces) : a.goesOn = true := by
  simp only [Connection.arrivals, List.mem_map, List.mem_filter] at h
  obtain ⟨piece, ⟨-, hpiece⟩, rfl⟩ := h
  exact hpiece

namespace Listener

/-- Whether a listener runs on a line that goes on. -/
structure IsUp (l : Listener) : Prop where
  running : l.running = true
  goesOn : l.intake.source.GoesOn

variable {l : Listener}

lemma IsUp.turn (h : l.IsUp) (x : Inbox) : (l.turn x).1.IsUp := by
  obtain ⟨p?, intake, hnext, hgoes⟩ := Intake.next_of_goesOn h.goesOn
  rw [Listener.turn, if_pos h.running, hnext]
  cases p? with
  | none => exact ⟨h.running, hgoes⟩
  | some p => exact ⟨h.running, hgoes⟩

lemma IsUp.turns (h : l.IsUp) (n : Nat) (x : Inbox) : (Listener.turns n l x).1.IsUp := by
  induction n generalizing l x with
  | zero => exact h
  | succ n ih => exact ih (h.turn x) (l.turn x).2

/-- Pieces of data do not end a line. -/
lemma IsUp.arrive (h : l.IsUp) (pieces : List (List UInt8)) :
    (l.arrive (Connection.arrivals pieces)).IsUp := by
  refine ⟨h.running, fun a ha => ?_, h.goesOn.ending⟩
  rcases List.mem_append.1 ha with ha | ha
  · exact h.goesOn.arrivals a ha
  · exact Connection.goesOn_of_mem_arrivals ha

/-- Pieces of data arrive, and the listener takes all that it can. -/
lemma IsUp.catchUp (h : l.IsUp) (pieces : List (List UInt8)) (x : Inbox) :
    ((l.arrive (Connection.arrivals pieces)).catchUp x).1.IsUp :=
  (h.arrive pieces).turns _ x

end Listener

/-! ### What the node hears -/

/-- A node that waits for a frame hears its packet. -/
lemma Node.hear_of_isIdle {n : Node} {p : Packet} {wire : List UInt8}
    (hidle : n.decoder.isIdle = true) (hp : encode p = .ok wire) :
    (n.hear wire).2.decoder.isIdle = true ∧ (n.hear wire).2.heard = n.heard ++ [p] := by
  have hfeed := Decoder.feed_frame n.decoder.tally hp
  rw [← Decoder.eq_of_isIdle hidle] at hfeed
  rw [hear, hfeed]
  exact ⟨rfl, rfl⟩

namespace Connection

/-- A connection that is up, to a node that waits for a frame. -/
structure IsReady (c : Connection) : Prop where
  listener : c.listener.IsUp
  node : c.node.decoder.isIdle = true

/-- A new connection is ready. -/
lemma isReady_new {n : Node} (hidle : n.decoder.isIdle = true) (timeout : Duration) :
    ({ timeout, node := n } : Connection).IsReady :=
  ⟨⟨rfl, nofun, rfl⟩, hidle⟩

lemma value_write (l : Listener) (n : Node) (wire : List UInt8) (x : Inbox) :
    (write (l, n) wire x).value =
      let reply := n.hear wire
      let listened := (l.arrive (arrivals reply.1)).catchUp x
      (.ok (), (listened.1, reply.2), listened.2) := rfl

/-- Over a connection that is up, the frame of a packet is written, and what the node replies is
routed before the answer is taken out of the mailbox. -/
lemma value_exchange_of_up {c : Connection} {p : Packet} {wire : List UInt8}
    (hrunning : c.isRunning = true) (hp : encode p = .ok wire) :
    let reply := c.node.hear wire
    let listened := (c.listener.arrive (arrivals reply.1)).catchUp c.inbox.discardStale.value
    (c.exchange p).value =
      (listened.2.mailbox,
        { c with
          listener := listened.1
          node := reply.2
          inbox := { listened.2 with mailbox := none } }) := by
  have hsent := Inbox.value_sendAndWait_of_ok c.timeout hp
    (value_write c.listener c.node wire c.inbox.discardStale.value)
  simp only [exchange, if_pos hrunning, Logged.value_bind, Logged.value_pure, hsent, Inbox.settle]

/-- Over a connection that is ready, the node hears the packet, and the connection stays ready
whatever the node replies. -/
theorem exchange_of_ready {c : Connection} {p : Packet} {wire : List UInt8} (h : c.IsReady)
    (hp : encode p = .ok wire) :
    (c.exchange p).value.2.IsReady ∧ (c.exchange p).value.2.node.heard = c.node.heard ++ [p] := by
  obtain ⟨hidle, hheard⟩ := c.node.hear_of_isIdle h.node hp
  have hup := h.listener.catchUp (c.node.hear wire).1 c.inbox.discardStale.value
  rw [value_exchange_of_up h.listener.running hp]
  exact ⟨⟨hup, hidle⟩, hheard⟩

end Connection

end ControlNode
