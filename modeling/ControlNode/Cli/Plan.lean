import ControlNode.Cli.DurationText
import ControlNode.Cli.Invocation

/-!
# Plans

A `Plan` is what a request comes to once all its arguments are checked: a text to print, a command
to send, or a watch over measurements. Everything that can be wrong with the arguments is found
here, before any device is touched.
-/

namespace ControlNode.Cli

/-- A device with the settings of its line and the time that its answers may take. -/
structure Target where
  path : String
  baud : Nat
  timeout : Duration
deriving DecidableEq, Repr

/-- A watch over measurements: what is measured, and when the watch ends. -/
structure Watch where
  consumption : Option ConsumptionSetup
  radio : Option UInt16
  count : Option Nat
  deadline : Option Duration
deriving DecidableEq, Repr

/-- What a request comes to. -/
inductive Plan where
  | print (text : String)
  | listDevices
  /-- Sends a command, and reports it under a name. -/
  | send (target : Target) (command : Command) (name : String)
  | watch (target : Target) (watch : Watch)

/-- The consumption measures that were chosen, or none if no quantity was. -/
def MeasureChoice.setup (m : MeasureChoice) : Except Failure (Option ConsumptionSetup) :=
  match Period.ofMicros? m.period with
  | none =>
    .error (.usage ("unsupported period " ++ toString m.period ++ " us, expected one of " ++
      Text.natList Period.table.toList))
  | some period =>
    match Averaging.ofCount? m.average with
    | none =>
      .error (.usage ("unsupported average " ++ toString m.average ++ ", expected one of " ++
        Text.natList Averaging.table.toList))
    | some averaging =>
      let setup : ConsumptionSetup :=
        { rail := m.rail, power := m.power, voltage := m.voltage, current := m.current, period,
          averaging }
      .ok (if setup.isEnabled then some setup else none)

/-- The period of radio measures that was chosen, if any. -/
def radioPeriod (period : Option UInt16) : Except Failure (Option UInt16) :=
  match period with
  | none => .ok none
  | some ms =>
    if Command.isRadioPeriod ms then .ok (some ms)
    else .error (.usage (Command.radioPeriodText ms))

def DeviceChoice.target (d : DeviceChoice) : Except Failure Target :=
  (readDuration d.timeout).map fun timeout => { path := d.tty, baud := d.baud, timeout }

/-- The first whole second that a reading of the clock cannot hold. -/
def clockLimit : Nat := Nat.pow 2 63

/-- What a run says that panics because the clock cannot hold a reading. -/
def overflowText : String := "overflow when adding duration to instant"

/-- The reading of the clock when a duration will be over. A reading that the clock cannot hold
makes the run panic. -/
def deadline (now : Duration) (duration : Duration) : Except Halt Duration :=
  let reading : Duration := ⟨now.nanoseconds + duration.nanoseconds⟩
  if reading.seconds < clockLimit then .ok reading else .error (.panic overflowText)

/-- The reading of the clock at which a watch ends that is asked for with a duration or without. -/
def watchEnd (now : Duration) : Option String → Except Halt (Option Duration)
  | none => .ok none
  | some text => do return some (← deadline now (← readDuration text))

def version : String := "0.1.0"

def versionText : String := "cnlink " ++ version ++ "\n"

/-- What the program was built from, as far as it is known. -/
def extendedVersionText : String :=
  "name: cnlink\nversion: " ++ version ++ "\ntarget: unknown\nprofile: unknown\ndefault_baud: " ++
    toString Line.defaultBaud ++ "\nfeatures: async=false, cli=true\n"

/-- Checks the arguments of a request, at a reading of the clock. A watch has interrupts noted by a
handler before its device is looked at; the handler is in place or tells why it cannot be. -/
def Request.plan (now : Duration) (handler : Except String Unit) : Request → Except Halt Plan
  | .power direction device supply => do
    return .send (← device.target) (.power direction supply)
      (match direction with | .start => "start" | .stop => "stop")
  | .resetTime device => do return .send (← device.target) .resetTime "reset-time"
  | .consumption device measures disable => do
    let setup ← if disable then Except.ok none else measures.setup
    return .send (← device.target) (.consumption setup)
      (if setup.isSome then "consumption" else "consumption-disable")
  | .radio device period stop => do
    let period ← if stop then Except.ok none else radioPeriod period
    return .send (← device.target) (.radio period)
      (if period.isSome then "radio" else "radio-stop")
  | .monitor device measures period count duration => do
    let setup ← measures.setup
    let period ← radioPeriod period
    let deadline ← watchEnd now duration
    Halt.lift (handler.mapError .ofHandlerError)
    return .watch (← device.target) { consumption := setup, radio := period, count, deadline }
  | .devices => .ok .listDevices
  | .version extended => .ok (.print (if extended then extendedVersionText else versionText))

end ControlNode.Cli
