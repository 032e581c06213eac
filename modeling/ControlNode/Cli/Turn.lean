import ControlNode.Cli.Plan

/-!
# A watch turn by turn

A watch over a device works in turns. A turn looks whether the run was interrupted and whether its
time is over, reports the next record or waits for one in vain, and looks whether this record was
the last and whether the connection is still up. The first of these that says so ends the watch,
and what waits then is not reported any more.
-/

namespace ControlNode.Cli

/-- Why a watch ended. -/
inductive Ending where
  | interrupted
  | overdue
  | counted
  | closed
  | hungUp
deriving DecidableEq, Repr

/-- What a watch meets in one turn. -/
structure Turn where
  interrupted : Bool := false
  /-- The reading of the clock at the start of the turn. -/
  clock : Duration := ⟨0⟩
  /-- The records that arrive before the turn takes one or has waited long enough. -/
  arriving : List Record := []
  /-- Whether no record can arrive any more. -/
  closed : Bool := false
  /-- Whether the connection is up at the end of the turn. -/
  connected : Bool := true

/-- What the end of a turn says about the connection. -/
def Turn.parting (t : Turn) : Option Ending := if t.connected then none else some .hungUp

/-- A watch at work. -/
structure Watching where
  /-- The records that are not reported yet, in the order of their arrival. -/
  waiting : List Record := []
  reported : Nat := 0
  /-- Why the watch ended, if it did. -/
  ending : Option Ending := none

namespace Watch

/-- Whether a watch is over once so many records were reported. -/
def isOver (w : Watch) (reported : Nat) : Bool :=
  match w.count with
  | some count => count ≤ reported
  | none => false

def isOverdue (w : Watch) (clock : Duration) : Bool :=
  w.deadline.any (·.nanoseconds ≤ clock.nanoseconds)

/-- What keeps a turn from taking a record: the watch ended before, or it ends now. -/
def halted (w : Watch) (s : Watching) (t : Turn) : Option Ending :=
  if s.ending.isSome then s.ending
  else if t.interrupted then some .interrupted
  else if w.isOverdue t.clock then some .overdue
  else none

/-- One turn: the record that it reports, and the watch after it. -/
def turn (w : Watch) (s : Watching) (t : Turn) : Option Record × Watching :=
  match w.halted s t, s.waiting ++ t.arriving with
  | some ending, waiting => (none, { s with waiting, ending := some ending })
  | none, [] =>
    (none, { s with waiting := [], ending := if t.closed then some .closed else t.parting })
  | none, r :: later =>
    let reported := s.reported + 1
    (some r, { waiting := later, reported,
               ending := if w.isOver reported then some .counted else t.parting })

/-- Turns one after the other, with the records that they report. -/
def follow (w : Watch) (s : Watching) : List Turn → List Record × Watching
  | [] => ([], s)
  | t :: later =>
    let (r, s) := w.turn s t
    let (rs, s) := follow w s later
    (r.toList ++ rs, s)

end Watch

end ControlNode.Cli
