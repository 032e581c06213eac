import ControlNode.Cli.Options
import ControlNode.Command.Basic
import ControlNode.Line.Serial
import ControlNode.Log
import ControlNode.Report.Basic

/-!
# Invocations

What can be asked for on the command line. The words are global options, the name of a subcommand
and the arguments of the subcommand, among which the global options may stand as well; there they
win over those before the subcommand.
-/

namespace ControlNode.Cli

structure DeviceChoice where
  tty : String
  baud : Nat
  timeout : String
deriving DecidableEq, Repr

/-- The consumption measures that a subcommand asks for. -/
structure MeasureChoice where
  rail : Rail
  power : Bool
  voltage : Bool
  current : Bool
  period : Nat
  average : Nat
deriving DecidableEq, Repr

inductive Request where
  | power (direction : Direction) (device : DeviceChoice) (supply : Supply)
  | resetTime (device : DeviceChoice)
  | consumption (device : DeviceChoice) (measures : MeasureChoice) (disable : Bool)
  | radio (device : DeviceChoice) (period : Option UInt16) (stop : Bool)
  | monitor (device : DeviceChoice) (measures : MeasureChoice) (radioPeriod : Option UInt16)
      (count : Option Nat) (duration : Option String)
  | devices
  | version (extended : Bool)
deriving DecidableEq, Repr

/-- How log events are written. -/
inductive LogForm where
  | text
  | json
deriving DecidableEq, Repr

structure Invocation where
  form : Option Report.Form
  logForm : LogForm
  logLevel : Log.Level
  request : Request

/-! ### The arguments of each subcommand -/

def option (name : String) (kind : ValueKind) : Argument := { name, action := .take kind }

def flag (name : String) (letter : Option Char) : Argument := { name, letter, action := .flag }

def helpFlag : Argument := { name := "help", letter := some 'h', action := .help }

def versionFlag : Argument := { name := "version", letter := some 'V', action := .version }

def globalOptions : List Argument :=
  [option "format" (.choice ["json", "table", "pretty"]),
   option "log-format" (.choice ["text", "json"]),
   option "log-level" (.choice ["error", "warn", "info", "debug", "trace"])]

/-- The numbers below which integers of 32 and 16 bits and counts lie. -/
def limit32 : Nat := Nat.pow 2 32

@[inherit_doc limit32] def limit16 : Nat := Nat.pow 2 16

@[inherit_doc limit32] def limit64 : Nat := Nat.pow 2 64

def ttyArgument : Argument := { name := "tty", action := .take .path, fromVariable := some "CNLINK_TTY" }

def deviceOptions : List Argument :=
  [{ option "baud" (.integer limit32) with fromVariable := some "CNLINK_BAUD" }, option "timeout" .text]

def measureOptions : List Argument :=
  [option "source" (.choice ["3.3v", "5v", "batt"]), flag "power" (some 'p'),
   flag "voltage" (some 'v'), flag "current" (some 'c'), option "period" (.integer limit32),
   option "average" (.integer limit32)]

/-- The names of the subcommands. -/
inductive Subcommand where
  | start
  | stop
  | resetTime
  | consumption
  | radio
  | monitor
  | devices
  | version
deriving DecidableEq, Repr

namespace Subcommand

def all : List (String × Subcommand) :=
  [("start", .start), ("stop", .stop), ("reset-time", .resetTime), ("consumption", .consumption),
   ("radio", .radio), ("monitor", .monitor), ("ports", .devices), ("version", .version)]

/-- The subcommand that asks for help about another one. -/
def helpName : String := "help"

/-- Whether a word is the name of a subcommand. -/
def isName (w : String) : Bool := w == helpName || all.any (·.1 == w)

/-- The arguments of a subcommand, without the global options. -/
def arguments : Subcommand → Signature
  | .start | .stop =>
    { positionals := [ttyArgument]
      options := deviceOptions ++ [option "source" (.choice ["dc", "battery"])] }
  | .resetTime => { positionals := [ttyArgument], options := deviceOptions }
  | .consumption =>
    { positionals := [ttyArgument]
      options := deviceOptions ++ measureOptions ++ [flag "disable" none] }
  | .radio =>
    { positionals := [ttyArgument]
      options := deviceOptions ++ [option "period" (.integer limit16), flag "stop" none] }
  | .monitor =>
    { positionals := [ttyArgument]
      options := deviceOptions ++ measureOptions ++
        [option "radio-period" (.integer limit16), option "count" (.count limit64),
         option "duration" .text] }
  | .devices => { options := [] }
  | .version => { options := [flag "extended" none] }

/-- Everything that can be given to a subcommand. -/
def signature (c : Subcommand) : Signature :=
  { c.arguments with options := c.arguments.options ++ globalOptions ++ [helpFlag] }

/-- The arguments of a subcommand that exclude each other. -/
def exclusions : Subcommand → List (String × String)
  | .consumption => [("disable", "power"), ("disable", "voltage"), ("disable", "current")]
  | .radio => [("stop", "period")]
  | _ => []

/-- The arguments that a subcommand needs; each can be replaced by another one. -/
def requirements : Subcommand → List (List String)
  | .devices | .version => []
  | .radio => [["tty"], ["period", "stop"]]
  | _ => [["tty"]]

def has (given : Given) (name : String) : Bool := given.any (·.1 == name)

/-- Checks which arguments were given together, and that none is missing. -/
def validate (c : Subcommand) (given : Given) : Except ArgumentError Unit :=
  if c.exclusions.any (fun p => has given p.1 && has given p.2) then .error .conflict
  else if c.requirements.all (·.any (has given)) then .ok ()
  else .error .missingArgument

/-! ### Reading what was given -/

def textOf (given : Given) (name default : String) : String := (given.lookup name).getD default

/-- The number of an argument, if it was given. -/
def numberOf? (given : Given) (name : String) : Option Nat :=
  (given.lookup name).bind fun s => (Text.integer? s.toList).map Int.toNat

def numberOf (given : Given) (name : String) (default : Nat) : Nat :=
  (numberOf? given name).getD default

def deviceOf (given : Given) : DeviceChoice :=
  { tty := textOf given "tty" ""
    baud := numberOf given "baud" Line.defaultBaud
    timeout := textOf given "timeout" "1s" }

def railOf (word : String) : Rail :=
  if word = "5v" then .v5 else if word = "batt" then .battery else .v3_3

def measuresOf (given : Given) : MeasureChoice :=
  { rail := railOf (textOf given "source" "3.3v")
    power := has given "power"
    voltage := has given "voltage"
    current := has given "current"
    period := numberOf given "period" 2116
    average := numberOf given "average" 512 }

def supplyOf (given : Given) : Supply :=
  if textOf given "source" "dc" = "battery" then .battery else .dc

def request (given : Given) : Subcommand → Request
  | .start => .power .start (deviceOf given) (supplyOf given)
  | .stop => .power .stop (deviceOf given) (supplyOf given)
  | .resetTime => .resetTime (deviceOf given)
  | .consumption => .consumption (deviceOf given) (measuresOf given) (has given "disable")
  | .radio =>
    .radio (deviceOf given) ((numberOf? given "period").map UInt16.ofNat) (has given "stop")
  | .monitor =>
    .monitor (deviceOf given) (measuresOf given)
      ((numberOf? given "radio-period").map UInt16.ofNat) (numberOf? given "count")
      (given.lookup "duration")
  | .devices => .devices
  | .version => .version (has given "extended")

end Subcommand

namespace Invocation

/-- The form of reports that a word stands for. -/
def formOf (word : String) : Report.Form :=
  if word = "table" then .table else if word = "pretty" then .pretty else .json

/-- The form of log events that a word stands for. -/
def logFormOf (word : String) : LogForm := if word = "json" then .json else .text

def logLevelOf (word : String) : Log.Level :=
  if word = "error" then .error
  else if word = "warn" then .warn
  else if word = "debug" then .debug
  else if word = "trace" then .trace
  else .info

/-- The options that can stand before the subcommand. -/
def rootOptions : List Argument := globalOptions ++ [helpFlag, versionFlag]

/-- The subcommands asked about must exist; only the first word can be one. -/
def help : List String → ArgumentError
  | [] => .displayHelp
  | [w] => if Subcommand.isName w then .displayHelp else .invalidSubcommand
  | _ :: _ :: _ => .invalidSubcommand

/-- Scans the words before the subcommand, and returns the subcommand with the words after it. -/
def scanRoot (s : Scanner) :
    List String → Except ArgumentError (Scanner × Option (Subcommand × List String))
  | [] => .ok (s, none)
  | w :: later =>
    let named := Subcommand.isName w
    if named && !s.trailing && !s.isAwaiting then
      match Subcommand.all.lookup w with
      | some c => .ok (s, some (c, later))
      | none => .error (help later)
    else do
      let surplus := if named && s.trailing then .unknownArgument else .invalidSubcommand
      scanRoot (← s.word rootOptions surplus w) later

def parse (environment : String → Option String) (ws : List String) :
    Except ArgumentError Invocation := do
  let (s, found) ← scanRoot { positionals := [] } ws
  match found with
  | none =>
    let s ← s.settle
    .error (if s.given = [] then .displayHelpOnMissing else .missingSubcommand)
  | some (c, later) =>
    let given ← c.signature.scan environment later
    c.validate given
    let s ← s.settle
    let globals := given ++ s.given
    return {
      form := (globals.lookup "format").map formOf
      logForm := logFormOf (Subcommand.textOf globals "log-format" "text")
      logLevel := logLevelOf (Subcommand.textOf globals "log-level" "info")
      request := c.request given }

end Invocation

end ControlNode.Cli
