import ControlNode.Packet
import ControlNode.Rail
import ControlNode.Text.ByteList

/-!
# Commands

The commands that a control node takes, and their packets. Every packet starts with the tag of the
command. `Command.encode` fails only for radio measures with a period out of range.
-/

namespace ControlNode

/-- Whether the open node is switched on or off. -/
inductive Direction where
  | start
  | stop
deriving DecidableEq, Repr

/-- Where the open node takes its power from. -/
inductive Supply where
  | battery
  | dc
deriving DecidableEq, Repr

def Supply.name : Supply → String
  | .battery => "battery"
  | .dc => "dc"

/-- The time that one conversion of the measuring circuit takes, by its place in the table. -/
structure Period where
  index : Fin 8
deriving DecidableEq, Repr

namespace Period

/-- The supported conversion times in microseconds. -/
def table : Vector Nat 8 := #v[140, 204, 332, 588, 1100, 2116, 4156, 8244]

def micros (p : Period) : Nat := table[p.index]

/-- The period with the given conversion time, if it is supported. -/
def ofMicros? (n : Nat) : Option Period :=
  ((List.finRange 8).find? fun i => table[i] == n).map Period.mk

end Period

/-- How many conversions make one value, by its place in the table. -/
structure Averaging where
  index : Fin 8
deriving DecidableEq, Repr

namespace Averaging

/-- The supported numbers of conversions. -/
def table : Vector Nat 8 := #v[1, 4, 16, 64, 128, 256, 512, 1024]

def count (a : Averaging) : Nat := table[a.index]

/-- The averaging over the given number of conversions, if it is supported. -/
def ofCount? (n : Nat) : Option Averaging :=
  ((List.finRange 8).find? fun i => table[i] == n).map Averaging.mk

end Averaging

/-- What is measured of the consumption, and how. -/
structure ConsumptionSetup where
  rail : Rail := .v3_3
  power : Bool := false
  voltage : Bool := false
  current : Bool := false
  period : Period := ⟨5⟩
  averaging : Averaging := ⟨6⟩
deriving DecidableEq, Repr

namespace ConsumptionSetup

def selects (s : ConsumptionSetup) : Quantity → Bool
  | .power => s.power
  | .voltage => s.voltage
  | .current => s.current

/-- The measured quantities, in the order of their values in a sample. -/
def quantities (s : ConsumptionSetup) : List Quantity := Quantity.all.filter s.selects

def isEnabled (s : ConsumptionSetup) : Bool := s.power || s.voltage || s.current

/-- The flags byte that names the rail and the measured quantities. -/
def flags (s : ConsumptionSetup) : UInt8 :=
  s.quantities.foldl (fun flags q => flags ||| q.flag) s.rail.flag

/-- The byte that sets up the measuring circuit: the period in bits 0 to 2, the averaging in bits
4 to 6, and bit 7 set. -/
def circuitByte (s : ConsumptionSetup) : UInt8 :=
  UInt8.ofNat s.period.index ||| (UInt8.ofNat s.averaging.index <<< 4) ||| 0x80

end ConsumptionSetup

/-- A command to the control node. Without a setup the consumption measures are switched off, and
without a period in milliseconds the radio measures. -/
inductive Command where
  | power (direction : Direction) (supply : Supply)
  | resetTime
  | consumption (setup : Option ConsumptionSetup)
  | radio (period : Option UInt16)
deriving DecidableEq, Repr

/-- Why a command failed. Each cause but the last carries the tag of the command. -/
inductive CommandError where
  | timeout (tag : UInt8)
  | refused (tag : UInt8)
  | unexpectedAnswer (tag : UInt8) (answer : Packet)
  | invalidArgument (text : String)
deriving DecidableEq, Repr

namespace Command

/-- The tag of the command that switches the open node. -/
def powerTag : Direction → UInt8
  | .start => 0x70
  | .stop => 0x71

/-- The tag of the command that sets the clock back. -/
def resetTimeTag : UInt8 := 0x72

/-- The tag of the command that sets up radio measures. -/
def radioTag : UInt8 := 0x75

/-- The tag of the command that sets up consumption measures. -/
def consumptionTag : UInt8 := 0x79

def tag : Command → UInt8
  | .power direction _ => powerTag direction
  | .resetTime => resetTimeTag
  | .consumption _ => consumptionTag
  | .radio _ => radioTag

/-- The name of the command with a tag. -/
def nameOfTag (tag : UInt8) : String :=
  if tag = powerTag .start then "open_node_start"
  else if tag = powerTag .stop then "open_node_stop"
  else if tag = resetTimeTag then "reset_time"
  else if tag = radioTag then "config_radio_measure"
  else if tag = consumptionTag then "config_consumption"
  else "unknown"

def name (c : Command) : String := nameOfTag c.tag

def supplyByte : Supply → UInt8
  | .battery => 0
  | .dc => 1

/-- The shortest and the longest period of radio measures, in milliseconds. -/
def radioPeriods : Nat × Nat := (2, 499)

def isRadioPeriod (ms : UInt16) : Bool :=
  radioPeriods.1 ≤ ms.toNat && ms.toNat ≤ radioPeriods.2

/-- What is told about a period that radio measures cannot have. -/
def radioPeriodText (ms : UInt16) : String :=
  "radio period " ++ toString ms.toNat ++ " ms outside " ++ toString radioPeriods.1 ++ "..=" ++
    toString radioPeriods.2 ++ " ms"

/-- The packet of a command. Consumption measures of nothing are switched off. -/
def encode : Command → Except CommandError Packet
  | .power direction supply => .ok [powerTag direction, supplyByte supply]
  | .resetTime => .ok [resetTimeTag]
  | .consumption (some setup) =>
    if setup.isEnabled then .ok [consumptionTag, setup.flags, setup.circuitByte]
    else .ok [consumptionTag, 0, 0]
  | .consumption none => .ok [consumptionTag, 0, 0]
  | .radio (some ms) =>
    if isRadioPeriod ms then
      .ok [radioTag, 1, UInt8.ofNat (ms.toNat % 256), UInt8.ofNat (ms.toNat / 256)]
    else .error (.invalidArgument (radioPeriodText ms))
  | .radio none => .ok [radioTag, 0, 0, 0]

end Command

def CommandError.message : CommandError → String
  | .timeout tag => Command.nameOfTag tag ++ ": no answer from control node"
  | .refused tag => Command.nameOfTag tag ++ ": control node answered NACK"
  | .unexpectedAnswer tag answer =>
    Command.nameOfTag tag ++ ": unexpected answer " ++ Text.hexList answer
  | .invalidArgument text => "invalid argument: " ++ text

namespace Command

/-- The second byte of an answer that accepts a command. -/
def acceptance : UInt8 := 0x0A

/-- The second byte of an answer that refuses a command. -/
def refusal : UInt8 := 0x02

/-- What an answer says about the command with a tag: it repeats the tag, and its second byte
accepts or refuses. -/
def judge (tag : UInt8) : Option Packet → Except CommandError Unit
  | none => .error (.timeout tag)
  | some answer =>
    match answer with
    | t :: verdict :: _ =>
      if t = tag ∧ verdict = acceptance then .ok ()
      else if t = tag ∧ verdict = refusal then .error (.refused tag)
      else .error (.unexpectedAnswer tag answer)
    | _ => .error (.unexpectedAnswer tag answer)

end Command

end ControlNode
