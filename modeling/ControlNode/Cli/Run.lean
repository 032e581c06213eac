import ControlNode.Cli.Host

/-!
# Runs

What a plan does with a device: it opens the device, sends its commands and reports. A watch sets
the clock back, sets up the measures, reports the records that arrive, and switches the measures
off again. What performs a command and what goes on between the set-up and the cleanup of a watch
is left open where it does not matter, so that the same steps are taken whatever does it.
-/

namespace ControlNode.Cli

/-- How a run ended, what it did, and the connection if there was one. -/
structure Outcome where
  result : Except Halt Unit
  /-- The target that the run tried to open. -/
  target : Option Target := none
  /-- The records that were reported. -/
  reported : List Record := []
  printed : String := ""
  connection : Option Connection := none

/-- The exit code. A run that panics sets none. -/
def Outcome.code (o : Outcome) : Option Nat :=
  match o.result with
  | .ok () => some Code.success.number
  | .error (.failure f) => some f.code.number
  | .error (.panic _) => none

/-! ### Sending commands -/

section

variable {m : Type → Type} [Monad m] {σ α : Type}
  (perform : σ → Command → m (Except CommandError Unit × σ))

/-- Performs commands one after the other, up to the first that fails. -/
def sendAll (s : σ) : List Command → m (Except CommandError Unit × σ)
  | [] => pure (.ok (), s)
  | c :: later => do
    let (result, s) ← perform s c
    match result with
    | .error e => return (.error e, s)
    | .ok () => sendAll s later

/-- Performs commands one after the other, whether or not they fail. -/
def sendEach (s : σ) : List Command → m σ
  | [] => pure s
  | c :: later => do
    let (_, s) ← perform s c
    sendEach s later

namespace Watch

def setup (w : Watch) : List Command :=
  [.resetTime, .consumption w.consumption] ++ (w.radio.map fun ms => .radio (some ms)).toList

def cleanup (w : Watch) : List Command :=
  .consumption none :: (w.radio.map fun _ => Command.radio none).toList

/-- A watch from its set-up to its cleanup. If the set-up fails, nothing else is done. -/
def conduct (w : Watch) (report : σ → m (α × σ)) (s : σ) : m (Except CommandError α × σ) := do
  let (result, s) ← sendAll perform s w.setup
  match result with
  | .error e => return (.error e, s)
  | .ok () =>
    let (a, s) ← report s
    let s ← sendEach perform s w.cleanup
    return (.ok a, s)

end Watch

end

/-! ### Runs over a connection -/

def Watch.run (form : Report.Form) (target : Target) (w : Watch) (moments : List Moment)
    (d : Desk) : Logged Outcome := do
  let (result, d) ← w.conduct Desk.perform (fun d => w.report {} d moments) d
  let connection := some d.session.carrier.stop
  match result with
  | .error e => return { result := .error (.failure (.ofCommandError e)), target, connection }
  | .ok reported =>
    let printed := String.join (reported.map (Report.record form))
    return { result := .ok (), target, reported, printed, connection }

/-- Sends one command over a connection and reports it. -/
def sendOne (form : Report.Form) (target : Target) (name : String) (command : Command)
    (s : Session Connection) : Logged Outcome := do
  let (result, s) ← s.perform command
  return {
    result := Halt.lift (result.mapError .ofCommandError)
    target
    printed := match result with
      | .ok () => Report.commandDone form name target.path s.clock.toUInt64.toNat
      | .error _ => ""
    connection := some s.carrier.stop }

/-! ### Runs on a host -/

/-- Carries out a plan on a host at a time in seconds. -/
def Plan.run (form : Report.Form) (time : Float) (host : Host) : Plan → Logged Outcome
  | .print text => pure { result := .ok (), printed := text }
  | .listDevices =>
    match host.devices with
    | .error e => pure { result := .error (.failure (.ofSerialError "cannot list ports" e)) }
    | .ok names => pure { result := .ok (), printed := Report.devices form names }
  | .send target command name =>
    match host.open target with
    | .error f => pure { result := .error (.failure f), target }
    | .ok c => sendOne form target name command { clock := time, carrier := c }
  | .watch target w =>
    match host.open target with
    | .error f => pure { result := .error (.failure f), target }
    | .ok c =>
      match host.worker with
      | .error text =>
        let f := Failure.ofCollectorError (.spawn text)
        pure { result := .error (.failure f), target, connection := some c.stop }
      | .ok () =>
        let session : Session Connection := { clock := time, carrier := c }
        w.run form target host.moments { session, paces := host.paces }

def Request.run (form : Report.Form) (now : Duration) (time : Float) (host : Host)
    (r : Request) : Logged Outcome :=
  match r.plan now host.handler with
  | .error halt => pure { result := .error halt }
  | .ok p => p.run form time host

end ControlNode.Cli
