import ControlNode.Proofs.Frame.Feed
import ControlNode.Proofs.Inbox.Pairing
import ControlNode.Session.Bench

/-!
# The bench

What becomes of the decoder, the inbox and the device of a bench when bytes arrive and when packets
are sent. As long as the decoder has used all bytes that it can, it makes no difference into which
pieces the bytes are cut (`Bench.value_receivePieces`); no operation on a session leaves bytes that
could be used (`Session.isDrained_run`).
-/

namespace ControlNode

open Inbox

namespace Bench

/-! ### Arriving bytes -/

/-- The bytes that the device sends next. -/
def burst (b : Bench) : List UInt8 :=
  (b.device.head?.join.getD []).flatten

/-- The packets that these bytes complete. -/
def arriving (b : Bench) : List Packet :=
  (b.decoder.feed b.burst).value.1

/-- The packets of a stream are routed in their order, whatever the pieces are. -/
theorem value_receivePieces {d : Frame.Decoder} (h : d.IsDrained) (x : Inbox)
    (pieces : List (List UInt8)) :
    (receivePieces d x pieces).value =
      ((d.feed pieces.flatten).value.2, (x.routeAll (d.feed pieces.flatten).value.1).value) := by
  induction pieces generalizing d x with
  | nil =>
    rw [List.flatten_nil, Frame.Decoder.feed_nil h]
    rfl
  | cons piece pieces ih =>
    rw [List.flatten_cons, Frame.Decoder.feed_append, value_routeAll_append]
    exact ih (Frame.Decoder.isDrained_feed d piece) (x.routeAll (d.feed piece).value.1).value

/-- What is left on the bench when bytes have arrived. -/
lemma value_receive {b : Bench} (h : b.decoder.IsDrained) (pieces : List (List UInt8)) :
    (b.receive pieces).value =
      { b with
        decoder := (b.decoder.feed pieces.flatten).value.2
        inbox := (b.inbox.routeAll (b.decoder.feed pieces.flatten).value.1).value } := by
  have hreceive := value_receivePieces h b.inbox pieces
  simp only [receive, Logged.value_bind, hreceive]
  rfl

/-! ### Sending packets -/

variable {b : Bench} {p : Packet} {wire : List UInt8}

/-- The bench when a frame was written and the device has sent its next bytes. -/
def afterWrite (b : Bench) (wire : List UInt8) : Bench :=
  { b with
    decoder := (b.decoder.feed b.burst).value.2
    device := b.device.tail
    sent := b.sent ++ [wire] }

lemma value_write (h : b.decoder.IsDrained) (wire : List UInt8) (x : Inbox) :
    (write b wire x).value = (.ok (), b.afterWrite wire, (x.routeAll b.arriving).value) := by
  have hreceive := value_receivePieces h x (b.device.head?.join.getD [])
  simp only [write, Logged.value_bind, hreceive]
  rfl

/-- The answer to a packet is the last answer among the packets that arrive when it was sent. -/
theorem value_exchange_of_ok (h : b.decoder.IsDrained) (hp : Frame.encode p = .ok wire) :
    (b.exchange p).value =
      (lastAnswer? b.arriving,
        { b.afterWrite wire with
          inbox := { (b.inbox.discardStale.value.routeAll b.arriving).value with
            mailbox := none } }) := by
  have hsent := value_sendAndWait_of_ok b.timeout hp (value_write h wire b.inbox.discardStale.value)
  simp only [exchange, Logged.value_bind, hsent, settle, mailbox_routeAll_discardStale]
  rfl

/-- A packet without a frame is not sent. -/
lemma value_exchange_of_error {e : Frame.Error} (hp : Frame.encode p = .error e) :
    (b.exchange p).value = (none, { b with inbox := b.inbox.discardStale.value }) := by
  simp only [exchange, Logged.value_bind, value_sendAndWait_of_error b.timeout hp]
  rfl

lemma isDrained_exchange (h : b.decoder.IsDrained) (p : Packet) :
    (b.exchange p).value.2.decoder.IsDrained := by
  cases hp : Frame.encode p with
  | error e =>
    rw [value_exchange_of_error hp]
    exact h
  | ok wire =>
    rw [value_exchange_of_ok h hp]
    exact Frame.Decoder.isDrained_feed b.decoder b.burst

end Bench

/-! ### Histories of a session on the bench -/

namespace Session

/-- One operation on a session on the bench. -/
inductive Op where
  | perform (c : Command)
  /-- A packet is sent past the session. If it is that of a reset, the time that is pending stays as
  it is. -/
  | exchange (p : Packet)
  /-- Bytes arrive without a command. -/
  | receive (pieces : List (List UInt8))
  | pump (limit : Nat)
  | decode (p : Packet)
  | resetDecoder
  | setClock (clock : Float)

/-- What one operation leaves. -/
def step (s : Session Bench) : Op → Session Bench
  | .perform c => (s.perform c).value.2
  | .exchange p => { s with carrier := (s.carrier.exchange p).value.2 }
  | .receive pieces => { s with carrier := (s.carrier.receive pieces).value }
  | .pump limit => (s.pump limit).value.2
  | .decode p => (s.decode p).value.2
  | .resetDecoder => { s with carrier.decoder := s.carrier.decoder.reset }
  | .setClock clock => { s with clock }

/-- What a history leaves, from the first operation to the last. -/
def run (s : Session Bench) (history : List Op) : Session Bench :=
  history.foldl step s

section

variable {σ : Type} [Carrier σ] {s : Session σ} {c : Command}

/-- The packet of a command that has one is exchanged, and the answer is judged. -/
lemma value_perform_of_ok {p : Packet} (h : c.encode = .ok p) :
    let back := (Carrier.exchange s.carrier p).value
    let result := (conclude c back.1).value
    (s.perform c).value =
      (result, { s with
        carrier := back.2
        decoding := (s.decoding.request c s.clock).settle c result }) := by
  simp only [perform, ask, h]
  rfl

lemma carrier_perform {p : Packet} (h : c.encode = .ok p) :
    (s.perform c).value.2.carrier = (Carrier.exchange s.carrier p).value.2 := by
  rw [value_perform_of_ok h]

lemma perform_of_error {e : CommandError} (h : c.encode = .error e) :
    (s.perform c).value = (.error e, s) := by
  simp only [perform, ask, h]
  rfl

lemma clock_perform (s : Session σ) (c : Command) : (s.perform c).value.2.clock = s.clock := by
  cases h : c.encode with
  | error e => rw [perform_of_error h]
  | ok p => rw [value_perform_of_ok h]

end

variable {s : Session Bench}

lemma carrier_perform_of_ok {c : Command} {p : Packet} (h : c.encode = .ok p) :
    (s.perform c).value.2.carrier = (s.carrier.exchange p).value.2 := carrier_perform h

lemma value_decode {σ : Type} (s : Session σ) (p : Packet) :
    (s.decode p).value =
      ((s.decoding.decode s.clock p).value.1,
        { s with decoding := (s.decoding.decode s.clock p).value.2 }) := rfl

/-! ### Taking packets out of the queue -/

lemma value_pump_of_empty (h : s.carrier.inbox.queue = []) (limit : Nat) :
    (s.pump limit).value = ([], s) := by
  have hreceive : s.carrier.inbox.receive = (none, s.carrier.inbox) := by
    rw [Inbox.receive, h]
  cases limit with
  | zero => rfl
  | succ limit =>
    rw [pump, hreceive]
    rfl

lemma value_pump_succ {p : Packet} {queue : List Packet} (h : s.carrier.inbox.queue = p :: queue)
    (limit : Nat) :
    let decoded := ({ s with carrier.inbox.queue := queue }.decode p).value
    (s.pump (limit + 1)).value =
      (decoded.1 :: (decoded.2.pump limit).value.1, (decoded.2.pump limit).value.2) := by
  have hreceive : s.carrier.inbox.receive = (some p, { s.carrier.inbox with queue }) := by
    rw [Inbox.receive, h]
  rw [pump, hreceive]
  rfl

/-- As many packets as are asked for leave the queue, the oldest first, and nothing else becomes of
the bench. -/
lemma carrier_pump (s : Session Bench) (limit : Nat) :
    (s.pump limit).value.2.carrier =
      { s.carrier with inbox.queue := s.carrier.inbox.queue.drop limit } := by
  induction limit generalizing s with
  | zero => rfl
  | succ limit ih =>
    cases h : s.carrier.inbox.queue with
    | nil => rw [value_pump_of_empty h, List.drop_nil, ← h]
    | cons p queue =>
      rw [value_pump_succ h, ih]
      rfl

/-! ### Any history -/

lemma isDrained_step (h : s.carrier.decoder.IsDrained) (op : Op) :
    (s.step op).carrier.decoder.IsDrained := by
  cases op with
  | perform c =>
    rw [step]
    cases hc : c.encode with
    | error e =>
      rw [perform_of_error hc]
      exact h
    | ok p =>
      rw [carrier_perform_of_ok hc]
      exact Bench.isDrained_exchange h p
  | exchange p => exact Bench.isDrained_exchange h p
  | receive pieces =>
    simp only [step, Bench.value_receive h]
    exact Frame.Decoder.isDrained_feed _ _
  | pump limit =>
    rw [step, carrier_pump]
    exact h
  | decode p => exact h
  | resetDecoder => exact rfl
  | setClock clock => exact h

lemma isDrained_run (h : s.carrier.decoder.IsDrained) (history : List Op) :
    (s.run history).carrier.decoder.IsDrained := by
  induction history generalizing s with
  | nil => exact h
  | cons op history ih => exact ih (isDrained_step h op)

end Session

end ControlNode
