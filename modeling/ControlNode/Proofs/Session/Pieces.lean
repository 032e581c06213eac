import ControlNode.Proofs.Session.Bench
import Mathlib.Data.List.Forall2

/-!
# The pieces of a session's bytes

The bytes that reach a session come in pieces: those of a burst of the device, and those that arrive
without a command. Joining the pieces of each of them (`joined`) commutes with every operation on a
session whose decoder is drained, and no operation tells more about a session than about the joined
one (`observe_joined`). So sessions whose bytes are cut into different pieces make the same
observations (`observations_eq_of_sameBytes`).
-/

namespace ControlNode

/-! ### The pieces on a bench -/

namespace Bench

/-- The bytes of a prepared burst. -/
def burstBytes (burst : Option (List (List UInt8))) : List UInt8 := (burst.getD []).flatten

/-- The bench with each prepared burst in one piece. -/
def joined (b : Bench) : Bench :=
  { b with device := b.device.map fun burst => some [burstBytes burst] }

variable (b : Bench)

@[simp] lemma decoder_joined : b.joined.decoder = b.decoder := rfl

lemma burst_joined : b.joined.burst = b.burst := by
  obtain ⟨decoder, inbox, device, timeout, sent⟩ := b
  cases device with
  | nil => rfl
  | cons burst device => cases burst <;> simp [burst, joined, burstBytes]

lemma arriving_joined : b.joined.arriving = b.arriving := by
  rw [arriving, arriving, burst_joined, decoder_joined]

lemma joined_afterWrite (wire : List UInt8) :
    (b.afterWrite wire).joined = b.joined.afterWrite wire := by
  rw [afterWrite, afterWrite, burst_joined, joined, joined]
  simp only [List.map_tail]

variable {b} (h : b.decoder.IsDrained)
include h

/-- Bytes that arrive in pieces leave what they leave in one piece. -/
lemma value_receive_joined (pieces : List (List UInt8)) :
    (b.joined.receive [pieces.flatten]).value = (b.receive pieces).value.joined := by
  have hjoined : b.joined.decoder.IsDrained := h
  rw [value_receive hjoined, value_receive h, List.flatten_singleton]
  rfl

/-- The answer to a packet does not depend on the pieces of the bursts. -/
lemma value_exchange_joined (p : Packet) :
    (b.joined.exchange p).value = ((b.exchange p).value.1, (b.exchange p).value.2.joined) := by
  have hjoined : b.joined.decoder.IsDrained := h
  cases hp : Frame.encode p with
  | error e =>
    rw [value_exchange_of_error hp, value_exchange_of_error hp]
    rfl
  | ok wire =>
    rw [value_exchange_of_ok hjoined hp, value_exchange_of_ok h hp, arriving_joined,
      ← joined_afterWrite]
    rfl

end Bench

/-! ### The pieces in a session -/

namespace Session

/-- What an operation answers. -/
inductive Reply where
  | result (r : Except CommandError Unit)
  | answer (p : Option Packet)
  | records (rs : List (Option Record))
  | done

/-- The answer of an operation. -/
def reply (s : Session Bench) : Op → Reply
  | .perform c => .result (s.perform c).value.1
  | .exchange p => .answer (s.carrier.exchange p).value.1
  | .receive _ => .done
  | .pump limit => .records (s.pump limit).value.1
  | .decode p => .records [(s.decode p).value.1]
  | .resetDecoder => .done
  | .setClock _ => .done

/-- What can be observed of a session after an operation: the answer of the operation, the frames
that were written, what the inbox holds and has counted, what the decoder has counted, and what is
known when measurements are decoded. -/
structure Observation where
  reply : Reply
  sent : List (List UInt8)
  inbox : Inbox
  framed : Frame.Tally
  decoding : Decoding

def observe (s : Session Bench) (op : Op) : Observation where
  reply := s.reply op
  sent := (s.step op).carrier.sent
  inbox := (s.step op).carrier.inbox
  framed := (s.step op).carrier.decoder.tally
  decoding := (s.step op).decoding

/-- The observations after each operation of a history. -/
def observations (s : Session Bench) : List Op → List Observation
  | [] => []
  | op :: history => s.observe op :: (s.step op).observations history

/-- The session with each prepared burst in one piece. -/
def joined (s : Session Bench) : Session Bench := { s with carrier := s.carrier.joined }

/-- The operation with the arriving bytes in one piece. -/
def Op.joined : Op → Op
  | .receive pieces => .receive [pieces.flatten]
  | op => op

/-- Two operations that differ in nothing but the pieces of the arriving bytes. -/
inductive Op.SameBytes : Op → Op → Prop
  | receive {pieces pieces' : List (List UInt8)} (h : pieces.flatten = pieces'.flatten) :
      SameBytes (.receive pieces) (.receive pieces')
  | rfl (op : Op) : SameBytes op op

lemma Op.SameBytes.joined_eq {op op' : Op} (h : op.SameBytes op') : op.joined = op'.joined := by
  cases h with
  | receive h => rw [joined, joined, h]
  | rfl => rfl

variable {s : Session Bench}

/-! ### Joining the pieces first or last -/

lemma value_perform_joined (h : s.carrier.decoder.IsDrained) (c : Command) :
    (s.joined.perform c).value = ((s.perform c).value.1, (s.perform c).value.2.joined) := by
  cases hc : c.encode with
  | error e => rw [perform_of_error hc, perform_of_error hc]
  | ok p =>
    have hexchange : (Carrier.exchange s.joined.carrier p).value =
        ((Carrier.exchange s.carrier p).value.1, (Carrier.exchange s.carrier p).value.2.joined) :=
      Bench.value_exchange_joined h p
    rw [value_perform_of_ok hc, value_perform_of_ok hc, hexchange]
    rfl

lemma value_pump_joined (s : Session Bench) (limit : Nat) :
    (s.joined.pump limit).value = ((s.pump limit).value.1, (s.pump limit).value.2.joined) := by
  induction limit generalizing s with
  | zero => rfl
  | succ limit ih =>
    cases hqueue : s.carrier.inbox.queue with
    | nil =>
      have hjoined : s.joined.carrier.inbox.queue = [] := hqueue
      rw [value_pump_of_empty hjoined, value_pump_of_empty hqueue]
    | cons p queue =>
      have hjoined : s.joined.carrier.inbox.queue = p :: queue := hqueue
      have hdecode : ({ s.joined with carrier.inbox.queue := queue }.decode p).value =
          (({ s with carrier.inbox.queue := queue }.decode p).value.1,
            ({ s with carrier.inbox.queue := queue }.decode p).value.2.joined) := rfl
      rw [value_pump_succ hjoined, value_pump_succ hqueue, hdecode]
      simp only [ih]

lemma step_joined (h : s.carrier.decoder.IsDrained) (op : Op) :
    s.joined.step op.joined = (s.step op).joined := by
  cases op with
  | perform c => exact congrArg Prod.snd (value_perform_joined h c)
  | exchange p =>
    have hexchange := congrArg Prod.snd (Bench.value_exchange_joined h p)
    simp only [step, Op.joined, joined, hexchange]
  | receive pieces => simp only [step, Op.joined, joined, Bench.value_receive_joined h]
  | pump limit => exact congrArg Prod.snd (value_pump_joined s limit)
  | decode p => rfl
  | resetDecoder => rfl
  | setClock clock => rfl

lemma reply_joined (h : s.carrier.decoder.IsDrained) (op : Op) :
    s.joined.reply op.joined = s.reply op := by
  cases op with
  | perform c => exact congrArg (Reply.result ·.1) (value_perform_joined h c)
  | exchange p => exact congrArg (Reply.answer ·.1) (Bench.value_exchange_joined h p)
  | receive pieces => rfl
  | pump limit => exact congrArg (Reply.records ·.1) (value_pump_joined s limit)
  | decode p => rfl
  | resetDecoder => rfl
  | setClock clock => rfl

/-- An operation tells the same of a session and of the joined one. -/
theorem observe_joined (h : s.carrier.decoder.IsDrained) (op : Op) :
    s.joined.observe op.joined = s.observe op := by
  rw [observe, observe, reply_joined h, step_joined h]
  rfl

lemma observations_joined (h : s.carrier.decoder.IsDrained) (history : List Op) :
    s.joined.observations (history.map Op.joined) = s.observations history := by
  induction history generalizing s with
  | nil => rfl
  | cons op history ih =>
    rw [List.map_cons, observations, observations, observe_joined h, step_joined h,
      ih (isDrained_step h op)]

/-- Two new sessions make the same observations after each operation if the bursts of the device and
the bytes that arrive without a command are the same, into whatever pieces they are cut. -/
theorem observations_eq_of_sameBytes (clock : Float) (timeout : Duration)
    {device device' : List (Option (List (List UInt8)))} {history history' : List Op}
    (hdevice : device.map Bench.burstBytes = device'.map Bench.burstBytes)
    (hhistory : List.Forall₂ Op.SameBytes history history') :
    observations { clock, carrier := { device, timeout } } history =
      observations { clock, carrier := { device := device', timeout } } history' := by
  let s : Session Bench := { clock, carrier := { device, timeout } }
  let s' : Session Bench := { clock, carrier := { device := device', timeout } }
  have hdrained : s.carrier.decoder.IsDrained := rfl
  have hdrained' : s'.carrier.decoder.IsDrained := rfl
  have hsession : s.joined = s'.joined := by
    have hbursts := congrArg (List.map fun bytes => some [bytes]) hdevice
    rw [List.map_map, List.map_map] at hbursts
    simp only [s, s', joined, Bench.joined]
    congr 2
  have hops : history.map Op.joined = history'.map Op.joined := by
    induction hhistory with
    | nil => rfl
    | cons hop _ ih => rw [List.map_cons, List.map_cons, hop.joined_eq, ih]
  calc s.observations history
      = s.joined.observations (history.map Op.joined) := (observations_joined hdrained history).symm
    _ = s'.joined.observations (history'.map Op.joined) := by rw [hsession, hops]
    _ = s'.observations history' := observations_joined hdrained' history'

/-- The end of a radio packet, then the acceptance of a reset and its acknowledgement, in one piece
and in five. -/
def wholeBurst : List (List UInt8) := [[0x01, 0x80, 0x02, 0x72, 0x0A, 0x80, 0x02, 0xFA, 0x72]]

def cutBurst : List (List UInt8) :=
  [[0x01, 0x80], [], [0x02, 0x72, 0x0A, 0x80], [0x02], [0xFA, 0x72]]

/-- A frame that begins before a reset of the clock and ends in the burst that answers it. -/
theorem observations_eq_of_cutBurst :
    [some wholeBurst, none].map Bench.burstBytes = [some cutBurst, none].map Bench.burstBytes ∧
      List.Forall₂ Op.SameBytes
        [.receive [[0x80, 0x02, 0xFE]], .perform .resetTime, .pump 2]
        [.receive [[0x80], [], [0x02, 0xFE]], .perform .resetTime, .pump 2] ∧
      observations { clock := 1000, carrier := { device := [some wholeBurst, none] } }
          [.receive [[0x80, 0x02, 0xFE]], .perform .resetTime, .pump 2] =
        observations { clock := 1000, carrier := { device := [some cutBurst, none] } }
          [.receive [[0x80], [], [0x02, 0xFE]], .perform .resetTime, .pump 2] := by
  have hdevice : [some wholeBurst, none].map Bench.burstBytes =
      [some cutBurst, none].map Bench.burstBytes := rfl
  have hhistory : List.Forall₂ Op.SameBytes
      [.receive [[0x80, 0x02, 0xFE]], .perform .resetTime, .pump 2]
      [.receive [[0x80], [], [0x02, 0xFE]], .perform .resetTime, .pump 2] :=
    .cons (.receive rfl) (.cons (.rfl _) (.cons (.rfl _) .nil))
  exact ⟨hdevice, hhistory, observations_eq_of_sameBytes 1000 _ hdevice hhistory⟩

end Session

end ControlNode
