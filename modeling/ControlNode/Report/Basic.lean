import ControlNode.Decimal.Fixed
import ControlNode.Decimal.Notation
import ControlNode.Measure.Layout
import ControlNode.Measure.Record
import ControlNode.Report.Table
import ControlNode.Text.Quoted

/-!
# Reports

Records, outcomes of commands and lists of devices are reported in one of three forms: as one line
of JSON, as plain lines, or as a table.
-/

namespace ControlNode.Report

/-- The form of a report. -/
inductive Form where
  | json
  | table
  | pretty
deriving DecidableEq, Repr

/-! ### Numbers -/

/-- How times are written in JSON. -/
def doubleStyle : Decimal.Style where
  format := .double
  lowest := -5
  highest := 15
  plus := true
  tie := .toEven
  nan := "null"
  infinite := "null"
  negativeInfinite := "null"

/-- How measured values are written in JSON. -/
def singleStyle : Decimal.Style :=
  { doubleStyle with format := .single, lowest := -6, highest := 12 }

/-- The decimal places of numbers in plain lines and tables. -/
def places : Nat := 6

def time (x : Float) : String := Decimal.fixed .double places x.toBits.toNat

/-- A measured value in plain lines and tables; a dash stands for a missing one. -/
def value (x : Option Single) : String :=
  match x with
  | some x => Decimal.fixed .single places x.bits.toNat
  | none => "-"

/-- The rail in plain lines and tables; a dash stands for a missing one. -/
def rail (r : Option Rail) : String := (r.map Rail.name).getD "-"

/-! ### JSON -/

/-- A JSON object of named values that are already written. -/
def object (fields : List (String × String)) : String :=
  "\x7b" ++ ",".intercalate (fields.map fun (k, v) => Text.quoted k ++ ":" ++ v) ++ "\x7d"

/-- A JSON array of values that are already written. -/
def array (items : List String) : String := "[" ++ ",".intercalate items ++ "]"

def orNull {α : Type} (write : α → String) : Option α → String
  | some a => write a
  | none => "null"

def jsonRail (r : Option Rail) : String := orNull (fun r => Text.quoted r.name) r

def jsonValue (x : Option Single) : String := orNull (fun x => singleStyle.write x.bits.toNat) x

def jsonTime (x : Float) : String := doubleStyle.write x.toBits.toNat

def jsonConsumptionSample (s : ConsumptionSample) : String :=
  object [("timestamp", jsonTime s.timestamp), ("power", jsonValue s.power),
    ("voltage", jsonValue s.voltage), ("current", jsonValue s.current)]

def jsonRadioSample (s : RadioSample) : String :=
  object [("timestamp", jsonTime s.timestamp), ("channel", toString s.channel.toNat),
    ("rssi", toString s.rssi.toInt)]

def jsonRecord : Record → String
  | .consumption r =>
    object [("type", Text.quoted "consumption"), ("source", jsonRail r.rail),
      ("samples", array (r.samples.map jsonConsumptionSample))]
  | .radio r =>
    object [("type", Text.quoted "radio"), ("samples", array (r.samples.map jsonRadioSample))]

def jsonLayout (l : Layout) : String :=
  object [("fields", array (l.letters.map Text.quoted)), ("sample_len", toString l.sampleLength),
    ("source", jsonRail l.rail), ("config_byte", toString l.configByte.toNat)]

/-! ### Plain lines and tables -/

/-- The plain line of a sample of consumption. -/
def consumptionLine (r : Option Rail) (s : ConsumptionSample) : String :=
  "consumption " ++ time s.timestamp ++ " source=" ++ rail r ++ " p=" ++ value s.power ++
    " v=" ++ value s.voltage ++ " c=" ++ value s.current ++ "\n"

/-- The plain line of a sample of radio activity. -/
def radioLine (s : RadioSample) : String :=
  "radio " ++ time s.timestamp ++ " channel=" ++ toString s.channel.toNat ++
    " rssi=" ++ toString s.rssi.toInt ++ "\n"

def prettyRecord : Record → String
  | .consumption r => String.join (r.samples.map (consumptionLine r.rail))
  | .radio r => String.join (r.samples.map radioLine)

def tableRecord : Record → Table
  | .consumption r =>
    { header := ["TIMESTAMP", "SOURCE", "POWER (W)", "VOLTAGE (V)", "CURRENT (A)"]
      rows := r.samples.map fun s =>
        [time s.timestamp, rail r.rail, value s.power, value s.voltage, value s.current] }
  | .radio r =>
    { header := ["TIMESTAMP", "CHANNEL", "RSSI (dBm)"]
      rows := r.samples.map fun s =>
        [time s.timestamp, toString s.channel.toNat, toString s.rssi.toInt] }

/-! ### Reports in a form -/

def record (form : Form) (r : Record) : String :=
  match form with
  | .json => jsonRecord r ++ "\n"
  | .table => (tableRecord r).render
  | .pretty => prettyRecord r

/-- The report of a command that was accepted, at a time in whole seconds. -/
def commandDone (form : Form) (command device : String) (seconds : Nat) : String :=
  match form with
  | .json =>
    object [("command", Text.quoted command), ("device", Text.quoted device),
      ("status", Text.quoted "ok"), ("timestamp", toString seconds)] ++ "\n"
  | .table =>
    Table.render { header := ["COMMAND", "DEVICE", "STATUS"], rows := [[command, device, "ok"]] }
  | .pretty => command ++ " on " ++ device ++ ": ok\n"

/-- The report of the devices that were found. -/
def devices (form : Form) (l : List String) : String :=
  match form with
  | .json => array (l.map Text.quoted) ++ "\n"
  | .table => Table.render { header := ["DEVICE"], rows := l.map fun device => [device] }
  | .pretty => String.join (l.map (· ++ "\n"))

end ControlNode.Report
