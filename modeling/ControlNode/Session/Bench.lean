import ControlNode.Frame.Decoder
import ControlNode.Inbox
import ControlNode.Session.Basic

/-!
# A session on the bench

A `Bench` is the host's side of a line, a decoder and an inbox, and a device that answers each
frame with prepared bytes. The bytes come in pieces as the line delivers them; each piece is
decoded and its packets are routed before the next piece.
-/

namespace ControlNode

/-- The host's side and the prepared bytes of the device. -/
structure Bench where
  decoder : Frame.Decoder := {}
  inbox : Inbox := {}
  device : List (Option (List (List UInt8))) := []
  timeout : Duration := .ofMilliseconds 1
  /-- The frames that were written. -/
  sent : List (List UInt8) := []

namespace Bench

/-- Decodes one piece of bytes and routes its packets. -/
def receivePiece (decoder : Frame.Decoder) (x : Inbox) (piece : List UInt8) :
    Logged (Frame.Decoder × Inbox) := do
  let (packets, decoder) ← decoder.feed piece
  return (decoder, ← x.routeAll packets)

/-- Decodes and routes one piece after the other. -/
def receivePieces (decoder : Frame.Decoder) (x : Inbox) :
    List (List UInt8) → Logged (Frame.Decoder × Inbox)
  | [] => pure (decoder, x)
  | piece :: pieces => do
    let (decoder, x) ← receivePiece decoder x piece
    receivePieces decoder x pieces

/-- Takes bytes that arrive without a command. -/
def receive (b : Bench) (pieces : List (List UInt8)) : Logged Bench := do
  let (decoder, inbox) ← receivePieces b.decoder b.inbox pieces
  return { b with decoder, inbox }

/-- Writes a frame, which makes the device send its next bytes. -/
def write : Inbox.Write Bench := fun b wire x => do
  let (decoder, x) ← receivePieces b.decoder x (b.device.head?.join.getD [])
  return (.ok (), { b with decoder, device := b.device.tail, sent := b.sent ++ [wire] }, x)

/-- Sends the packet of a command and waits for its answer. -/
def exchange (b : Bench) (p : Packet) : Logged (Option Packet × Bench) := do
  let (answer, b, inbox) ← b.inbox.sendAndWait write b.timeout b p
  return (answer, { b with inbox })

instance : Carrier Bench where
  exchange := exchange

end Bench

namespace Session

/-- Takes at most `limit` packets out of the measurement queue and decodes them. -/
def pump (s : Session Bench) : (limit : Nat) → Logged (List (Option Record) × Session Bench)
  | 0 => pure ([], s)
  | limit + 1 =>
    match s.carrier.inbox.receive with
    | (none, _) => pure ([], s)
    | (some p, inbox) => do
      let (record, s) ← decode { s with carrier.inbox := inbox } p
      let (records, s) ← pump s limit
      return (record :: records, s)

end Session

end ControlNode
