import ControlNode.Cli.Turn
import ControlNode.Connection.Basic

/-!
# The desk of a watch

A watch sends its commands over a session while a worker in the background takes the measurements
that wait, decodes them in the same session and hands the records over. A `Desk` is what the two
share. How far the worker gets is not up to the watch: a `Pace` tells it for one command, and a
`Moment` for one turn, together with everything else that happens meanwhile.
-/

namespace ControlNode.Cli

/-- How many measurements the worker decodes while a command is performed. -/
structure Pace where
  /-- Before the command is sent. -/
  before : Nat := 0
  /-- After the command is sent, and before its answer is judged. -/
  during : Nat := 0
deriving DecidableEq, Repr

/-- What happens in one turn of a watch. -/
structure Moment where
  interrupted : Bool := false
  /-- The reading of the clock at the start of the turn. -/
  clock : Duration := ⟨0⟩
  /-- The pieces of bytes that arrive from the node. -/
  pieces : List (List UInt8) := []
  /-- Whether the node hangs up then. -/
  hangsUp : Bool := false
  /-- The measurements that the worker decodes before the turn takes a record. -/
  decoded : Nat := 0
  /-- Whether the worker is gone. -/
  closed : Bool := false
deriving DecidableEq, Repr

/-- What a watch and its worker share. -/
structure Desk where
  session : Session Connection
  /-- The records that are handed over and not taken yet. -/
  records : List Record := []
  /-- The paces of the commands to come; after the last of them the worker rests. -/
  paces : List Pace := []

namespace Desk

/-- The worker decodes so many of the measurements that wait. -/
def work (d : Desk) (n : Nat) : Logged Desk := do
  let s := d.session
  let queue := s.carrier.inbox.queue
  let (records, decoding) ← s.decoding.decodeAll s.clock (queue.take n)
  return { d with
    session := { s with decoding, carrier.inbox.queue := queue.drop n }
    records := d.records ++ records.reduceOption }

/-- Performs a command while the worker is at work. -/
def perform (d : Desk) (c : Command) : Logged (Except CommandError Unit × Desk) := do
  let pace := d.paces.headD {}
  let d ← d.work pace.before
  let (answer, session) ← d.session.ask c
  let d ← work { d with session, paces := d.paces.tail } pace.during
  let (result, session) ← d.session.settle c answer
  return (result, { d with session })

/-- What a turn meets at a moment. -/
def meet (d : Desk) (m : Moment) : Logged (Turn × Desk) := do
  let arrived := d.session.carrier.receive m.pieces
  let carrier := if m.hangsUp then arrived.hangUp else arrived
  let d ← work { d with session.carrier := carrier } m.decoded
  return (
    { interrupted := m.interrupted
      clock := m.clock
      arriving := d.records
      closed := m.closed
      connected := carrier.isRunning },
    { d with records := [] })

end Desk

/-- Reports records turn by turn until the watch ends. If it has not ended after the last moment, it
is interrupted then. -/
def Watch.report (w : Watch) (s : Watching) (d : Desk) :
    List Moment → Logged (List Record × Desk)
  | [] => pure ([], d)
  | m :: later =>
    if s.ending.isSome then pure ([], d)
    else do
      let (t, d) ← d.meet m
      let (r, s) := w.turn s t
      let (rs, d) ← report w s d later
      return (r.toList ++ rs, d)

end ControlNode.Cli
