import ControlNode.Command.Basic
import ControlNode.Measure.Decode

/-!
# Decoding in a session

What the packets of a session mean depends on what came before them: acknowledged setups fix the
layout of consumption samples, and an acknowledged reset of the clock fixes the time that ticks
count from. `Decoding` is this memory, and `Decoding.decode` takes one packet of the measurement
queue: measurements become records, acknowledgements change the memory, and everything else is
reported and dropped.
-/

namespace ControlNode

/-- What is known when a measurement packet is decoded. -/
structure Decoding where
  layout : Option Layout := none
  reference : Option Float := none
  /-- The time of a reset of the clock that is not acknowledged yet. -/
  pending : Option Float := none

namespace Decoding

/-- Notes the time at which a reset of the clock is asked for. -/
def request (d : Decoding) (command : Command) (clock : Float) : Decoding :=
  if command = .resetTime then { d with pending := some clock } else d

/-- Whether a command was refused or answered otherwise, so that its acknowledgement will not
follow. -/
def isRejection : Except CommandError Unit → Bool
  | .error (.refused _) => true
  | .error (.unexpectedAnswer _ _) => true
  | _ => false

/-- Forgets the time of a reset that was rejected. After a timeout its acknowledgement may still
come. -/
def settle (d : Decoding) (command : Command) (result : Except CommandError Unit) : Decoding :=
  if command = .resetTime ∧ isRejection result then { d with pending := none } else d

/-- The tag of acknowledgements on the measurement path. -/
def ackTag : UInt8 := 0xFA

/-- The microseconds from one time to another; none if they are not in this order. -/
def delayMicros (start stop : Float) : UInt64 :=
  let delay := (stop - start) * 1000000
  if 0 < delay then delay.toUInt64 else 0

/-- Makes the time of the pending reset the reference. -/
def installReference (d : Decoding) (clock : Float) : Logged Decoding :=
  match d.pending with
  | none => do
    Log.emit .warn "reset time ack without a pending request, keeping current reference" []
    return d
  | some time => do
    Log.emit .info "time reference set"
      [("reference", .real time), ("delay_us", .number (delayMicros time clock).toNat)]
    return { d with reference := some time, pending := none }

/-- Makes the acknowledged setup the layout. -/
def installLayout (d : Decoding) (configByte : UInt8) : Logged Decoding := do
  let layout : Layout := ⟨configByte⟩
  Log.emit .info "consumption configuration acknowledged"
    [("fields", .text (Text.bracketed (layout.letters.map fun l => "\"" ++ l ++ "\""))),
     ("source", .text layout.railText), ("sample_len", .number layout.sampleLength)]
  return { d with layout := some layout }

def acknowledge (d : Decoding) (clock : Float) (p : Packet) : Logged Decoding :=
  match p with
  | _ :: tag :: rest =>
    if tag = Command.resetTimeTag then d.installReference clock
    else if tag = Command.consumptionTag then
      match rest with
      | configByte :: _ => d.installLayout configByte
      | [] => do
        Log.emit .warn "consumption ack without configuration"
          [("payload", .text (Text.byteList p))]
        return d
    else do
      Log.emit .debug "ack ignored"
        [("command", .text (Command.nameOfTag tag)), ("tag", .number tag.toNat)]
      return d
  | _ => do
    Log.emit .warn "ack without command tag" [("payload", .text (Text.byteList p))]
    return d

/-- Decodes a consumption packet with what is known. -/
def decodeConsumption (d : Decoding) (p : Packet) :
    Logged (Except DecodeError ConsumptionRecord) :=
  Measure.decodeConsumption d.layout d.reference p

/-- Reports a measurement packet that is dropped. -/
def dropped (message : String) (e : DecodeError) (p : Packet) : Logged (Option Record) := do
  Log.emit .error message [("error", .text e.message), ("len", .number p.length)]
  return none

/-- Takes one packet of the measurement queue at the time of the clock. -/
def decode (d : Decoding) (clock : Float) (p : Packet) : Logged (Option Record × Decoding) :=
  match p with
  | [] => pure (none, d)
  | tag :: _ =>
    if tag = Measure.consumptionTag then do
      match ← d.decodeConsumption p with
      | .ok r => return (some (.consumption r), d)
      | .error e => return (← dropped "dropping consumption packet" e p, d)
    else if tag = Measure.radioTag then
      match Measure.decodeRadio p with
      | .ok r => pure (some (.radio r), d)
      | .error e => do return (← dropped "dropping radio packet" e p, d)
    else if tag = ackTag then do
      return (none, ← d.acknowledge clock p)
    else do
      Log.emit .warn "unknown measure packet"
        [("tag", .number tag.toNat), ("payload", .text (Text.byteList p))]
      return (none, d)

/-- Takes packets of the measurement queue one after the other. -/
def decodeAll (d : Decoding) (clock : Float) :
    List Packet → Logged (List (Option Record) × Decoding)
  | [] => pure ([], d)
  | p :: later => do
    let (record, d) ← d.decode clock p
    let (records, d) ← decodeAll d clock later
    return (record :: records, d)

end Decoding

end ControlNode
