import ControlNode.Line.Fault

/-!
# Serial devices

Why a serial device cannot be used. What the system reports about the device is passed on as text.
-/

namespace ControlNode.Line

inductive SerialError where
  | notOpened (path report : String)
  | notConfigured (report : String)
  | fault (f : Fault)
  | notListed (report : String)
deriving DecidableEq, Repr

def SerialError.message : SerialError → String
  | .notOpened path report => "failed to open " ++ path ++ ": " ++ report
  | .notConfigured report => "failed to configure serial device: " ++ report
  | .fault f => "transport I/O error: " ++ f.text
  | .notListed report => "failed to list serial ports: " ++ report

/-- The baud rate of a line unless another one is asked for. -/
def defaultBaud : Nat := 500000

/-- Checks the milliseconds that a read waits for data. There is no waiting for none. -/
def checkTimeout (ms : Nat) : Except Fault Unit :=
  if ms = 0 then .error .zeroTimeout else .ok ()

end ControlNode.Line
